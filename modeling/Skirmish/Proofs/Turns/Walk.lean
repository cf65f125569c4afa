import Skirmish.Proofs.Turns.Round

/-!
# Once through the roster

In `characterSelect` the token goes through the slots from front to back. The slot of its holder
divides the players: the living below it have chosen a job, and nobody from there on has
(`ChosenUpTo`). The walk passes over dead players only, so each step keeps this.

Results:

* `Turns.walk_cases`, `Turns.start_eq`: the token goes to the first living player behind;
* `ChosenUpTo.walk`, `ChosenUpTo.done`: the walk goes on, or is finished;
* `ChosenUpTo.settle`, `ChosenUpTo.spare`: a change of the holder, and of the others;
* `exists_slots_of_sublist`: a sublist of the ids has increasing slots.
-/

namespace Skirmish

/-! ## Where the walk goes -/

namespace Turns

/-- `advance_character_select` gives the token to the first living player behind the holder, or is
finished because nobody lives there. -/
theorem walk_cases (t : Turns) (r : Roster) :
    (∃ slot p, slotAfter (t.holderSlot r) ≤ slot ∧ r.players[slot]? = some p ∧
        (∀ k, slotAfter (t.holderSlot r) ≤ k → k < slot → ¬AliveAt r.players k) ∧
        t.advanceSelect r = (.next p.id, ⟨some p.id⟩)) ∨
      ((∀ k, slotAfter (t.holderSlot r) ≤ k → ¬AliveAt r.players k) ∧
        t.advanceSelect r = (.finished, t)) := by
  cases next : nextInOrder r.players (t.holderSlot r) with
  | none => exact .inr ⟨nextInOrder_eq_none_iff.mp next, by simp [advanceSelect, next]⟩
  | some slot =>
    obtain ⟨after, ⟨p, here, -⟩, passed⟩ := nextInOrder_eq_some_iff.mp next
    exact .inl ⟨slot, p, after, here, passed, by simp [advanceSelect, next, here]⟩

/-- `begin` is `advance_character_select` without a holder. -/
theorem start_eq (r : Roster) : start r = ((⟨none⟩ : Turns).advanceSelect r).2 := by
  cases next : nextInOrder r.players none with
  | none => simp [start, advanceSelect, holderSlot, next]
  | some slot =>
    obtain ⟨-, ⟨p, here, -⟩, -⟩ := nextInOrder_eq_some_iff.mp next
    simp [start, advanceSelect, holderSlot, next, here]

end Turns

/-! ## Who has chosen -/

/-- Ready, with a job. -/
def Player.HasChosen (p : Player) : Prop :=
  p.ready = true ∧ p.job ≠ .unassigned

/-- Unready, without a job. -/
def Player.HasToChoose (p : Player) : Prop :=
  p.ready = false ∧ p.job = .unassigned

namespace Standing

/-- A change that keeps `ready` and `job`, and does not raise the dead. -/
structure Spared (before after : Standing) : Prop where
  ready : after.ready = before.ready
  job : after.job = before.job
  lived : after.alive = true → before.alive = true

theorem spared_change (st : Standing) (delta : Int32) : st.Spared (st.change delta) := by
  unfold change
  split
  · rename_i alive
    exact ⟨rfl, rfl, fun _ => alive⟩
  · exact ⟨rfl, rfl, fun alive => alive⟩

theorem spared_forfeit (st : Standing) : st.Spared st.forfeit :=
  ⟨rfl, rfl, fun alive => by cases alive⟩

theorem spared_update {f : Standing → Standing} (spares : ∀ st : Standing, st.Spared (f st))
    (id : PlayerId) (p : Player) :
    p.toStanding.Spared (if p.id = id then p.mapStanding f else p).toStanding := by
  split
  · exact spares p.toStanding
  · exact ⟨rfl, rfl, fun alive => alive⟩

variable {p q : Player}

theorem Spared.hasChosen (spared : p.toStanding.Spared q.toStanding)
    (chosen : p.alive = true → p.HasChosen) (alive : q.alive = true) : q.HasChosen := by
  obtain ⟨ready, real⟩ := chosen (spared.lived alive)
  exact ⟨spared.ready.trans ready, fun none => real (spared.job.symm.trans none)⟩

theorem Spared.hasToChoose (spared : p.toStanding.Spared q.toStanding) (h : p.HasToChoose) :
    q.HasToChoose :=
  ⟨spared.ready.trans h.1, spared.job.trans h.2⟩

end Standing

namespace Roster

variable {r : Roster} {id : PlayerId} {f : Standing → Standing} {slot next k : Nat}

theorem getElem?_update (r : Roster) (id : PlayerId) (f : Standing → Standing) (k : Nat) :
    (r.update id f).players[k]? =
      r.players[k]?.map fun p => if p.id = id then p.mapStanding f else p := by
  rw [players_update, List.getElem?_map]

/-- No player has a job. -/
def Jobless (r : Roster) : Prop :=
  ∀ p ∈ r.players, p.job = .unassigned

/-- Every living player `HasChosen`. -/
def Chosen (r : Roster) : Prop :=
  ∀ p ∈ r.players, p.alive = true → p.HasChosen

/-- The living in slots below `slot` have chosen, and nobody from `slot` on has. -/
structure ChosenUpTo (r : Roster) (slot : Nat) : Prop where
  below : ∀ k p, r.players[k]? = some p → k < slot → p.alive = true → p.HasChosen
  behind : ∀ k p, r.players[k]? = some p → slot ≤ k → p.HasToChoose

theorem Jobless.update (h : r.Jobless) (keeps : ∀ st, (f st).job = st.job) (id : PlayerId) :
    (r.update id f).Jobless := by
  intro p hp
  rw [players_update, List.mem_map] at hp
  obtain ⟨q, hq, rfl⟩ := hp
  split
  · exact (keeps q.toStanding).trans (h q hq)
  · exact h q hq

theorem Chosen.update (h : r.Chosen) (spares : ∀ st : Standing, st.Spared (f st))
    (id : PlayerId) : (r.update id f).Chosen := by
  intro p hp alive
  rw [players_update, List.mem_map] at hp
  obtain ⟨q, hq, rfl⟩ := hp
  exact (Standing.spared_update spares id q).hasChosen (h q hq) alive

/-! ## The walk divides the players -/

namespace ChosenUpTo

/-- When the game starts, `ChosenUpTo 0` holds. -/
theorem start (h : r.Jobless) : (r.updateAll ({ · with ready := false })).ChosenUpTo 0 where
  below k p _ before := absurd before (Nat.not_lt_zero k)
  behind k p here _ := by
    rw [players_updateAll, List.getElem?_map, Option.map_eq_some_iff] at here
    obtain ⟨q, there, rfl⟩ := here
    exact ⟨rfl, h q (List.mem_of_getElem? there)⟩

/-- Dead players may be passed over. -/
theorem walk (h : r.ChosenUpTo slot) (onwards : slot ≤ next)
    (passed : ∀ k, slot ≤ k → k < next → ¬AliveAt r.players k) : r.ChosenUpTo next where
  below k p here before alive := by
    by_cases early : k < slot
    · exact h.below k p here early alive
    · exact absurd ⟨p, here, alive⟩ (passed k (Nat.le_of_not_lt early) before)
  behind k p here late := h.behind k p here (Nat.le_trans onwards late)

/-- With nobody alive from `slot` on, all the living have chosen. -/
theorem done (h : r.ChosenUpTo slot) (passed : ∀ k, slot ≤ k → ¬AliveAt r.players k) :
    r.Chosen := by
  intro p hp alive
  obtain ⟨k, here, living⟩ := exists_aliveAt hp alive
  refine h.below k p here ?_ alive
  by_contra late
  exact passed k (Nat.le_of_not_lt late) living

/-- A change after which the player in `slot` is dead or has chosen moves the division behind it. -/
theorem settle (h : r.ChosenUpTo slot) (own : r.slot? id = some slot)
    (settles : ∀ st, (f st).alive = true → (f st).ready = true ∧ (f st).job ≠ .unassigned) :
    (r.update id f).ChosenUpTo (slot + 1) := by
  obtain ⟨holder, there, rfl⟩ := slot?_eq_some_iff.mp own
  constructor
  · intro k p here before alive
    rw [getElem?_update, Option.map_eq_some_iff] at here
    obtain ⟨q, here, rfl⟩ := here
    split at alive
    · rename_i same
      rw [if_pos same]
      exact settles q.toStanding alive
    · rename_i other
      rw [if_neg other]
      refine h.below k q here ?_ alive
      -- it is not the slot of whoever has the turn
      have elsewhere : k ≠ slot := by
        rintro rfl
        rw [there, Option.some.injEq] at here
        exact other (here ▸ rfl)
      omega
  · intro k p here late
    rw [getElem?_update, Option.map_eq_some_iff] at here
    obtain ⟨q, here, rfl⟩ := here
    have elsewhere : q.id ≠ holder.id := by
      intro same
      have slotOf : r.slot? holder.id = some k := slot?_eq_some_iff.mpr ⟨q, here, same⟩
      rw [own, Option.some.injEq] at slotOf
      omega
    rw [if_neg elsewhere]
    exact h.behind k q here (by omega)

/-- A change that is `Spared` keeps the division. -/
theorem spare (h : r.ChosenUpTo slot) (spares : ∀ st : Standing, st.Spared (f st))
    (id : PlayerId) : (r.update id f).ChosenUpTo slot := by
  constructor <;> intro k p here
  all_goals
    rw [getElem?_update, Option.map_eq_some_iff] at here
    obtain ⟨q, here, rfl⟩ := here
    have spared := Standing.spared_update spares id q
  · exact fun before alive => spared.hasChosen (h.below k q here before) alive
  · exact fun late => spared.hasToChoose (h.behind k q here late)

end ChosenUpTo

/-! ## Turns in order -/

/-- The holder at `next` may follow ids from the slots below. -/
theorem append_sublist_ids {turns : List PlayerId} (inOrder : turns.Sublist (r.ids.take slot))
    (onwards : slot ≤ next) (own : r.slot? id = some next) :
    (turns ++ [id]).Sublist (r.ids.take (next + 1)) := by
  rw [List.take_add_one, getElem?_ids.mpr own]
  exact (inOrder.trans (List.take_prefix_take_left onwards).sublist).append (List.Sublist.refl _)

/-- The slots of a sublist of the ids increase. -/
theorem exists_slots_of_sublist {turns : List PlayerId} (inOrder : turns.Sublist r.ids) :
    ∃ slots : List Nat, turns.map r.slot? = slots.map some ∧ slots.Pairwise (· < ·) := by
  obtain ⟨seats, rfl, increasing⟩ := List.sublist_eq_map_getElem inOrder
  refine ⟨seats.map Fin.val, ?_, List.pairwise_map.mpr increasing⟩
  rw [List.map_map, List.map_map]
  refine List.map_congr_left fun seat _ => ?_
  exact getElem?_ids.mp (List.getElem?_eq_getElem seat.isLt)

end Roster

end Skirmish
