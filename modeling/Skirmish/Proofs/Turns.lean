import Mathlib.Data.List.Basic
import Skirmish.Proofs.Roster
import Skirmish.Turns

/-!
# Where the turn goes

What `next_in_order` and `next_alive` find, and what `begin`, `advance_character_select` and
`advance_main` of the scheduler do to the token.

Results:

* `nextInOrder_eq_some_iff`, `nextAlive_eq_some_iff`: the slot at which each search stops;
* `Turns.start_cases`, `Turns.advanceSelect_cases`, `Turns.advanceMain_cases`: the outcomes of each
  operation on the token. Whoever gets it lives and did not have it before.
-/

namespace Skirmish

variable {players : List Player}

/-- `slot` holds a living player. -/
def AliveAt (players : List Player) (slot : Nat) : Prop :=
  ∃ p, players[slot]? = some p ∧ p.alive = true

theorem AliveAt.lt {slot : Nat} (h : AliveAt players slot) : slot < players.length := by
  obtain ⟨p, hp, -⟩ := h
  exact (List.getElem?_eq_some_iff.mp hp).1

theorem any_alive_iff {slot : Nat} :
    (players[slot]?.any (·.alive)) = true ↔ AliveAt players slot := by
  rw [AliveAt]
  cases players[slot]? <;> simp

theorem exists_aliveAt {p : Player} (hp : p ∈ players) (alive : p.alive = true) :
    ∃ slot, players[slot]? = some p ∧ AliveAt players slot := by
  obtain ⟨slot, bound, rfl⟩ := List.mem_iff_getElem.mp hp
  have here := List.getElem?_eq_getElem bound
  exact ⟨slot, here, _, here, alive⟩

/-- `p` in `slot` is the first living player. -/
structure FrontAt (players : List Player) (slot : Nat) (p : Player) : Prop where
  here : players[slot]? = some p
  alive : p.alive = true
  passed : ∀ k < slot, ¬AliveAt players k

/-! ## The walk of character select -/

/-- The slot from which `advance_character_select` searches. -/
def slotAfter : Option Nat → Nat
  | none => 0
  | some slot => slot + 1

theorem nextInOrder_eq (players : List Player) (current : Option Nat) :
    nextInOrder players current =
      ((players.drop (slotAfter current)).findIdx? (·.alive)).map (slotAfter current + ·) := by
  cases current <;> rfl

theorem nextInOrder_eq_some_iff {current : Option Nat} {slot : Nat} :
    nextInOrder players current = some slot ↔
      slotAfter current ≤ slot ∧ AliveAt players slot ∧
        ∀ k, slotAfter current ≤ k → k < slot → ¬AliveAt players k := by
  rw [nextInOrder_eq, Option.map_eq_some_iff]
  constructor
  · rintro ⟨i, hi, rfl⟩
    obtain ⟨bound, alive, first⟩ := List.findIdx?_eq_some_iff_getElem.mp hi
    rw [List.length_drop] at bound
    rw [List.getElem_drop] at alive
    refine ⟨Nat.le_add_right .., ⟨_, List.getElem?_eq_getElem (by omega), alive⟩, ?_⟩
    rintro k from_ before ⟨p, hp, living⟩
    obtain ⟨kbound, rfl⟩ := List.getElem?_eq_some_iff.mp hp
    apply first (k - slotAfter current) (by omega)
    rw [List.getElem_drop]
    simpa [Nat.add_sub_cancel' from_] using living
  · rintro ⟨from_, ⟨p, hp, alive⟩, first⟩
    obtain ⟨bound, rfl⟩ := List.getElem?_eq_some_iff.mp hp
    refine ⟨slot - slotAfter current, ?_, by omega⟩
    refine List.findIdx?_eq_some_iff_getElem.mpr ⟨by rw [List.length_drop]; omega, ?_, ?_⟩
    · rw [List.getElem_drop]
      simpa [Nat.add_sub_cancel' from_] using alive
    · intro j before living
      rw [List.getElem_drop] at living
      exact first (slotAfter current + j) (by omega) (by omega)
        ⟨_, List.getElem?_eq_getElem (by omega), living⟩

theorem nextInOrder_eq_none_iff {current : Option Nat} :
    nextInOrder players current = none ↔ ∀ k, slotAfter current ≤ k → ¬AliveAt players k := by
  rw [nextInOrder_eq, Option.map_eq_none_iff, List.findIdx?_eq_none_iff]
  constructor
  · rintro dead k from_ ⟨p, hp, alive⟩
    have here : (players.drop (slotAfter current))[k - slotAfter current]? = some p := by
      rw [List.getElem?_drop, Nat.add_sub_cancel' from_, hp]
    have := dead p (List.mem_of_getElem? here)
    rw [alive] at this
    cases this
  · intro dead p hp
    obtain ⟨i, hi⟩ := List.mem_iff_getElem?.mp hp
    rw [List.getElem?_drop] at hi
    by_contra alive
    exact dead _ (Nat.le_add_right ..) ⟨p, hi, by simpa using alive⟩

/-! ## The round of the main phase -/

theorem nextAlive_eq_some_iff {current slot : Nat} :
    nextAlive players current = some slot ↔
      ∃ step < players.length, (current + 1 + step) % players.length = slot ∧
        AliveAt players slot ∧
        ∀ earlier < step, ¬AliveAt players ((current + 1 + earlier) % players.length) := by
  simp only [nextAlive, List.find?_map, Option.map_eq_some_iff, List.find?_range_eq_some,
    Function.comp, List.mem_range, Bool.not_eq_true', ← Bool.not_eq_true, any_alive_iff]
  constructor
  · rintro ⟨step, ⟨alive, bound, first⟩, rfl⟩
    exact ⟨step, bound, rfl, alive, first⟩
  · rintro ⟨step, bound, rfl, alive, first⟩
    exact ⟨step, ⟨alive, bound, first⟩, rfl⟩

/-- `a % n` for `a < 2 * n`. -/
theorem mod_of_lt_two_mul {a n : Nat} (h : a < 2 * n) :
    a < n ∧ a % n = a ∨ n ≤ a ∧ a % n = a - n := by
  by_cases first : a < n
  · exact .inl ⟨first, Nat.mod_eq_of_lt first⟩
  · refine .inr ⟨Nat.le_of_not_lt first, ?_⟩
    rw [Nat.mod_eq_sub_mod (Nat.le_of_not_lt first), Nat.mod_eq_of_lt (by omega)]

/-- `next_alive` comes to every slot within `n` steps, and to `current` only with the last. -/
theorem exists_step {n current slot : Nat} (hc : current < n) (hs : slot < n) :
    ∃ step < n, (current + 1 + step) % n = slot ∧ (slot ≠ current → step + 1 < n) := by
  by_cases h : current < slot
  · refine ⟨slot - current - 1, by omega, ?_, by omega⟩
    rw [show current + 1 + (slot - current - 1) = slot by omega, Nat.mod_eq_of_lt hs]
  · refine ⟨slot + n - current - 1, by omega, ?_, by omega⟩
    rw [show current + 1 + (slot + n - current - 1) = slot + n by omega, Nat.add_mod_right,
      Nat.mod_eq_of_lt hs]

theorem step_ne {n current step : Nat} (hc : current < n) (h : step + 1 < n) :
    (current + 1 + step) % n ≠ current := by
  have place := mod_of_lt_two_mul (a := current + 1 + step) (n := n) (by omega)
  omega

theorem nextAlive_eq_none_iff {current : Nat} (hc : current < players.length) :
    nextAlive players current = none ↔ ∀ k, ¬AliveAt players k := by
  constructor
  · intro none k alive
    obtain ⟨step, bound, here, -⟩ := exists_step hc alive.lt
    simp only [nextAlive, List.find?_eq_none, List.mem_map, List.mem_range,
      any_alive_iff] at none
    exact none k ⟨step, bound, here⟩ alive
  · intro dead
    cases h : nextAlive players current with
    | none => rfl
    | some slot =>
      obtain ⟨-, -, -, alive, -⟩ := nextAlive_eq_some_iff.mp h
      exact absurd alive (dead slot)

/-- `next_alive` does not stop at `current` if somebody lives in another slot. -/
theorem nextAlive_ne {current slot other : Nat} (hc : current < players.length)
    (h : nextAlive players current = some slot) (alive : AliveAt players other)
    (elsewhere : other ≠ current) : slot ≠ current := by
  obtain ⟨step, -, rfl, -, first⟩ := nextAlive_eq_some_iff.mp h
  obtain ⟨later, -, there, short⟩ := exists_step hc alive.lt
  have : step ≤ later := by
    by_contra before
    exact first later (by omega) (there ▸ alive)
  have := short elsewhere
  exact step_ne hc (by omega)

/-! ## The token -/

namespace Turns

theorem start_cases (r : Roster) :
    (∃ p ∈ r.players, p.alive = true ∧ start r = ⟨some p.id⟩) ∨
      ((∀ p ∈ r.players, p.alive = false) ∧ start r = ⟨none⟩) := by
  cases h : nextInOrder r.players none with
  | some slot =>
    obtain ⟨-, ⟨p, hp, alive⟩, -⟩ := nextInOrder_eq_some_iff.mp h
    exact .inl ⟨p, List.mem_of_getElem? hp, alive, by simp [start, h, hp]⟩
  | none =>
    refine .inr ⟨fun p hp => ?_, by simp [start, h]⟩
    by_contra alive
    obtain ⟨slot, -, living⟩ := exists_aliveAt hp (by simpa using alive)
    exact nextInOrder_eq_none_iff.mp h slot (Nat.zero_le _) living

theorem advanceSelect_cases (t : Turns) (r : Roster) :
    (∃ p ∈ r.players, p.alive = true ∧ t.holder ≠ some p.id ∧
        t.advanceSelect r = (.next p.id, ⟨some p.id⟩)) ∨
      t.advanceSelect r = (.finished, t) := by
  cases h : nextInOrder r.players (t.holderSlot r) with
  | none => exact .inr (by simp [advanceSelect, h])
  | some slot =>
    obtain ⟨after, ⟨p, hp, alive⟩, -⟩ := nextInOrder_eq_some_iff.mp h
    refine .inl ⟨p, List.mem_of_getElem? hp, alive, fun same => ?_, by simp [advanceSelect, h, hp]⟩
    -- the walk goes on behind the slot of the holder
    have here : t.holderSlot r = some slot := by
      rw [holderSlot, same]
      exact Roster.slot?_eq_some_iff.mpr ⟨p, hp, rfl⟩
    rw [here, slotAfter] at after
    omega

/-- `advance_character_select` is finished iff nobody lives behind the holder. -/
theorem advanceSelect_eq_finished_iff {t : Turns} {r : Roster} :
    t.advanceSelect r = (.finished, t) ↔
      ∀ k, slotAfter (t.holderSlot r) ≤ k → ¬AliveAt r.players k := by
  rw [← nextInOrder_eq_none_iff]
  cases h : nextInOrder r.players (t.holderSlot r) with
  | none => simp [advanceSelect, h]
  | some slot =>
    obtain ⟨-, ⟨p, hp, -⟩, -⟩ := nextInOrder_eq_some_iff.mp h
    simp [advanceSelect, h, hp]

/-- The slot behind which `advance_main` searches: that of the holder, or the last one. -/
def fromSlot (t : Turns) (r : Roster) : Nat :=
  (t.holderSlot r).getD (r.players.length - 1)

theorem fromSlot_lt (t : Turns) {r : Roster} (h : r.players ≠ []) :
    t.fromSlot r < r.players.length := by
  have : 0 < r.players.length := List.length_pos_iff.mpr h
  rw [fromSlot]
  cases hs : t.holderSlot r with
  | none => simp; omega
  | some slot =>
    obtain ⟨id, -, hid⟩ := Option.bind_eq_some_iff.mp hs
    exact Roster.slot?_lt hid

theorem advanceMain_eq (t : Turns) (r : Roster) :
    t.advanceMain r =
      match (nextAlive r.players (t.fromSlot r)).bind (r.players[·]?) with
      | none => (.noSurvivors, ⟨none⟩)
      | some p => if r.aliveCount = 1 then (.winner p.id, ⟨none⟩) else (.turn p.id, ⟨some p.id⟩) :=
  rfl

/-- With two living players, `advance_main` does not give the token to its holder again. -/
theorem holder_ne_of_nextAlive {t : Turns} {r : Roster} {slot : Nat} {p : Player}
    (h : nextAlive r.players (t.fromSlot r) = some slot) (hp : r.players[slot]? = some p)
    (two : 2 ≤ r.aliveCount) : t.holder ≠ some p.id := by
  intro same
  have own : r.slot? p.id = some slot := Roster.slot?_eq_some_iff.mpr ⟨p, hp, rfl⟩
  have start : t.fromSlot r = slot := by simp [fromSlot, holderSlot, same, own]
  obtain ⟨q, hq, alive, differs⟩ := Roster.exists_other_alive two p.id
  obtain ⟨other, there, living⟩ := exists_aliveAt hq alive
  have elsewhere : other ≠ slot := by
    rintro rfl
    rw [hp, Option.some.injEq] at there
    exact differs (there ▸ rfl)
  rw [start] at h
  exact nextAlive_ne (List.getElem?_eq_some_iff.mp hp).1 h living elsewhere rfl

theorem advanceMain_cases (t : Turns) (r : Roster) :
    (∃ p ∈ r.players, p.alive = true ∧ 2 ≤ r.aliveCount ∧ t.holder ≠ some p.id ∧
        t.advanceMain r = (.turn p.id, ⟨some p.id⟩)) ∨
      (∃ p ∈ r.players, p.alive = true ∧ r.aliveCount = 1 ∧
        t.advanceMain r = (.winner p.id, ⟨none⟩)) ∨
      (r.aliveCount = 0 ∧ t.advanceMain r = (.noSurvivors, ⟨none⟩)) := by
  rw [advanceMain_eq]
  cases h : nextAlive r.players (t.fromSlot r) with
  | none =>
    refine .inr (.inr ⟨?_, rfl⟩)
    rw [Roster.aliveCount, List.countP_eq_zero]
    intro p hp alive
    obtain ⟨slot, -, living⟩ := exists_aliveAt hp alive
    exact (nextAlive_eq_none_iff (t.fromSlot_lt (List.ne_nil_of_mem hp))).mp h slot living
  | some slot =>
    obtain ⟨-, -, -, ⟨p, hp, alive⟩, -⟩ := nextAlive_eq_some_iff.mp h
    have member := List.mem_of_getElem? hp
    have one := Roster.one_le_aliveCount member alive
    simp only [Option.bind_some, hp]
    by_cases count : r.aliveCount = 1
    · exact .inr (.inl ⟨p, member, alive, count, if_pos count⟩)
    · have two : 2 ≤ r.aliveCount := by omega
      exact .inl ⟨p, member, alive, two, holder_ne_of_nextAlive h hp two, if_neg count⟩

end Turns

end Skirmish
