import Mathlib.Data.List.Rotate
import Skirmish.Proofs.Turns

/-!
# Once round the roster

In `main` the token goes from its holder to the first living player behind, round the roster. So
`next_alive` is `find?` on a rotation of the players.

`Round` is the invariant while the token goes round from a player that lives: who has been passed
and who is ahead. `WholeRound` is what it comes to when the token is back. Players may die
meanwhile, but none is raised and the slots stay (`Fades`).

Results:

* `bind_nextAlive`: `next_alive` as `find?` on a rotation;
* `Round.start`, `Round.mono`, `Round.next`: a round begins, outlives deaths, and goes on or ends;
* `WholeRound.mono`: a whole round outlives deaths.
-/

namespace Skirmish

/-! ## The search of the main phase -/

/-- `find?` on places by what is there is `find?` on what is there. -/
theorem bind_find?_any {α β : Type} (at? : α → Option β) (q : β → Bool) (places : List α) :
    (places.find? fun a => (at? a).any q).bind at? = (places.filterMap at?).find? q := by
  induction places with
  | nil => rfl
  | cons a rest ih =>
    rw [List.find?_cons, List.filterMap_cons]
    cases found : at? a with
    | none => exact ih
    | some b =>
      rw [List.find?_cons, Option.any_some]
      cases q b with
      | true => exact found
      | false => exact ih

theorem map_getElem?_rotate {α : Type} (l : List α) (start : Nat) :
    (List.range l.length).map (fun step => l[(start + step) % l.length]?) =
      (l.rotate start).map some := by
  apply List.ext_getElem?
  intro step
  by_cases inside : step < l.length
  · rw [List.getElem?_map, List.getElem?_map, List.getElem?_range inside,
      List.getElem?_rotate inside, Option.map_some, Nat.add_comm start]
    rw [List.getElem?_eq_getElem (Nat.mod_lt _ (by omega)), Option.map_some]
  · rw [List.getElem?_eq_none (by simpa using inside),
      List.getElem?_eq_none (by simpa using inside)]

/-- `next_alive` finds the first living player of the rotation that starts behind `current`. -/
theorem bind_nextAlive (players : List Player) (current : Nat) :
    (nextAlive players current).bind (players[·]?) =
      (players.rotate (current + 1)).find? (·.alive) := by
  have seats : ((List.range players.length).map
      fun step => (current + 1 + step) % players.length).filterMap (players[·]?) =
      players.rotate (current + 1) := by
    have all := congrArg (List.filterMap id) (map_getElem?_rotate players (current + 1))
    simpa [List.filterMap_map, Function.comp_def] using all
  rw [← seats]
  exact bind_find?_any (players[·]?) (fun p : Player => p.alive) _

/-- Whoever `advance_main` gives the token to is the first living player of that rotation. -/
theorem Turns.find?_of_advanceMain {t u : Turns} {r : Roster} {id : PlayerId}
    (passed : t.advanceMain r = (.turn id, u)) :
    ∃ p, (r.players.rotate (t.fromSlot r + 1)).find? (·.alive) = some p ∧ p.id = id := by
  rw [advanceMain_eq, bind_nextAlive] at passed
  split at passed
  · cases passed
  · rename_i p found
    split at passed <;> cases passed
    exact ⟨p, found, rfl⟩

/-! ## Rotations -/

/-- The rotation of a duplicate-free list that starts behind `a`, from any rotation cut at `a`. -/
theorem rotate_behind {α : Type} {l before after : List α} {a : α} {m k : Nat}
    (distinct : l.Nodup) (cut : l.rotate m = before ++ a :: after) (own : l[k]? = some a) :
    l.rotate (k + 1) = after ++ (before ++ [a]) := by
  have bound : before.length < l.length := by
    rw [← List.length_rotate l m, cut, List.length_append, List.length_cons]
    omega
  have here : l[(before.length + m) % l.length]? = some a := by
    rw [← List.getElem?_rotate bound, cut, List.getElem?_append_right (Nat.le_refl _), Nat.sub_self]
    rfl
  have same : (before.length + m) % l.length = k :=
    (List.getElem?_inj (Nat.mod_lt _ (by omega)) distinct).mp (here.trans own.symm)
  calc l.rotate (k + 1) = (l.rotate ((before.length + m) % l.length)).rotate 1 := by
        rw [List.rotate_rotate, same]
    _ = (l.rotate m).rotate (before.length + 1) := by
        rw [List.rotate_mod, List.rotate_rotate, List.rotate_rotate]
        congr 1
        omega
    _ = (before ++ [a] ++ after).rotate (before ++ [a]).length := by
        rw [cut, List.append_assoc, List.length_append]
        rfl
    _ = after ++ (before ++ [a]) := List.rotate_append_length_eq ..

namespace Roster

variable {r s : Roster} {id first holder : PlayerId} {p : Player} {had : List PlayerId} {slot : Nat}

/-- The ids of the players in slot order. -/
def ids (r : Roster) : List PlayerId :=
  r.players.map (·.id)

/-- The ids behind `slot` and then those before it. -/
def others (r : Roster) (slot : Nat) : List PlayerId :=
  r.ids.drop (slot + 1) ++ r.ids.take slot

/-- The player `id` is registered and alive. -/
def Lives (r : Roster) (id : PlayerId) : Prop :=
  ∃ p ∈ r.players, p.id = id ∧ p.alive = true

theorem getElem?_ids : r.ids[slot]? = some id ↔ r.slot? id = some slot := by
  rw [slot?_eq_some_iff, ids, List.getElem?_map, Option.map_eq_some_iff]

/-- The rotation behind `slot` is `others` and then `id` itself. -/
theorem rotate_ids (own : r.slot? id = some slot) :
    r.ids.rotate (slot + 1) = r.others slot ++ [id] := by
  have here := getElem?_ids.mpr own
  have bound : slot < r.ids.length := (List.getElem?_eq_some_iff.mp here).1
  rw [List.rotate_eq_drop_append_take (by omega), List.take_add_one, here, others,
    List.append_assoc]
  rfl

theorem others_nodup (own : r.slot? id = some slot) : (r.others slot ++ [id]).Nodup := by
  rw [← rotate_ids own, List.nodup_rotate]
  exact r.ids_nodup

theorem notMem_others (own : r.slot? id = some slot) : id ∉ r.others slot := by
  have distinct := others_nodup own
  rw [List.nodup_append] at distinct
  exact fun there => distinct.2.2 id there id (List.mem_singleton_self id) rfl

/-- Every other player is among `others`. -/
theorem mem_others (own : r.slot? id = some slot) (hp : p ∈ r.players) (other : p.id ≠ id) :
    p.id ∈ r.others slot := by
  have seated : p.id ∈ r.ids.rotate (slot + 1) :=
    List.mem_rotate.mpr (List.mem_map.mpr ⟨p, hp, rfl⟩)
  rw [rotate_ids own, List.mem_append, List.mem_singleton] at seated
  exact seated.resolve_right other

/-! ## Rounds -/

/-- The token has gone from `first` to `holder`. `others` is cut into `passed`, which ends at
`holder`, and `ahead`. `had` are the passed ones that had the token, and among them all who still
live. -/
inductive Round (r : Roster) (first holder : PlayerId) (had : List PlayerId) : Prop
  | intro {slot : Nat} {passed ahead : List PlayerId} (own : r.slot? first = some slot)
      (order : r.others slot = passed ++ ahead) (last : passed.getLast?.getD first = holder)
      (turns : had.Sublist passed)
      (all : ∀ p ∈ r.players, p.alive = true → p.id ∈ passed → p.id ∈ had) :
      Round r first holder had

/-- Every living player but `first` had the token once, in the order of `others`. -/
structure WholeRound (r : Roster) (first : PlayerId) (had : List PlayerId) : Prop where
  inOrder : ∃ slot, r.slot? first = some slot ∧ had.Sublist (r.others slot)
  once : ∀ p ∈ r.players, p.alive = true → p.id ≠ first → had.count p.id = 1

/-- The ids stay, and whoever lives now lived before. -/
structure Fades (r s : Roster) : Prop where
  ids_eq : s.ids = r.ids
  lives : ∀ id, s.Lives id → r.Lives id

theorem Fades.slot?_eq (fades : r.Fades s) (id : PlayerId) : s.slot? id = r.slot? id := by
  rw [Roster.slot?_eq, Roster.slot?_eq]
  exact congrArg (·.idxOf? id) fades.ids_eq

theorem Fades.others_eq (fades : r.Fades s) (slot : Nat) : s.others slot = r.others slot := by
  rw [others, others, fades.ids_eq]

theorem Fades.refl (r : Roster) : r.Fades r :=
  ⟨rfl, fun _ lives => lives⟩

/-- `update` of a living player `Fades`. -/
theorem fades_update (found : r.get? id = some p) (alive : p.alive = true)
    (f : Standing → Standing) : r.Fades (r.update id f) where
  ids_eq := by
    rw [ids, ids, players_update]
    exact map_update_of_keeps (fun _ => rfl) r.players id
  lives other := by
    rintro ⟨q, hq, rfl, living⟩
    rw [players_update, List.mem_map] at hq
    obtain ⟨q, hq, rfl⟩ := hq
    split at living
    · rename_i own
      obtain ⟨hp, same⟩ := get?_eq_some_iff.mp found
      rw [if_pos own]
      exact ⟨p, hp, same.trans own.symm, alive⟩
    · rename_i differs
      rw [if_neg differs]
      exact ⟨q, hq, rfl, living⟩

theorem lives_id_iff (hp : p ∈ r.players) : r.Lives p.id ↔ p.alive = true := by
  constructor
  · rintro ⟨q, hq, same, alive⟩
    rwa [← eq_of_id_eq hq hp same]
  · intro alive
    exact ⟨p, hp, rfl, alive⟩

theorem Round.start (own : r.slot? first = some slot) : r.Round first first [] :=
  .intro own (List.nil_append _).symm rfl (List.Sublist.refl _) (by simp)

theorem Round.mono (h : r.Round first holder had) (fades : r.Fades s) :
    s.Round first holder had := by
  obtain ⟨own, order, last, turns, all⟩ := h
  refine .intro ((fades.slot?_eq first).trans own) ((fades.others_eq _).trans order) last turns ?_
  intro p hp alive behind
  obtain ⟨q, hq, same, living⟩ := fades.lives p.id ⟨p, hp, rfl, alive⟩
  rw [← same] at behind ⊢
  exact all q hq living behind

theorem WholeRound.mono (h : r.WholeRound first had) (fades : r.Fades s) :
    s.WholeRound first had := by
  obtain ⟨slot, own, inOrder⟩ := h.inOrder
  refine ⟨⟨slot, (fades.slot?_eq first).trans own, ?_⟩, fun p hp alive other => ?_⟩
  · rw [fades.others_eq]
    exact inOrder
  · obtain ⟨q, hq, same, living⟩ := fades.lives p.id ⟨p, hp, rfl, alive⟩
    rw [← same] at other ⊢
    exact h.once q hq living other

/-- The rotation behind `holder` is `ahead`, `first`, `passed`. -/
theorem rotate_of_round {passed ahead : List PlayerId} {now : Nat}
    (own : r.slot? first = some slot) (order : r.others slot = passed ++ ahead)
    (last : passed.getLast?.getD first = holder) (here : r.slot? holder = some now) :
    r.ids.rotate (now + 1) = ahead ++ first :: passed := by
  have seats := rotate_ids own
  rw [order] at seats
  cases back : passed.getLast? with
  | none =>
    -- the round has just begun
    have none_passed : passed = [] := List.getLast?_eq_none_iff.mp back
    subst none_passed
    rw [back, Option.getD_none] at last
    subst last
    rw [own, Option.some.injEq] at here
    rw [← here, seats]
    rfl
  | some q =>
    obtain ⟨earlier, rfl⟩ := List.getLast?_eq_some_iff.mp back
    rw [back, Option.getD_some] at last
    subst last
    have cut : r.ids.rotate (slot + 1) = earlier ++ q :: (ahead ++ [first]) := by
      rw [seats]
      simp
    have behind := rotate_behind (l := r.ids) r.ids_nodup cut (getElem?_ids.mpr here)
    rw [behind, List.append_assoc]
    rfl

/-- With nobody alive ahead, the round is whole. -/
theorem WholeRound.of_dead {passed ahead : List PlayerId} (own : r.slot? first = some slot)
    (order : r.others slot = passed ++ ahead) (turns : had.Sublist passed)
    (all : ∀ p ∈ r.players, p.alive = true → p.id ∈ passed → p.id ∈ had)
    (dead : ∀ p ∈ r.players, p.id ∈ ahead → p.alive = false) : r.WholeRound first had := by
  have inOrder : had.Sublist (r.others slot) := by
    rw [order]
    exact turns.trans (List.sublist_append_left _ _)
  have distinct : had.Nodup :=
    (others_nodup own).sublist (inOrder.trans (List.sublist_append_left _ _))
  refine ⟨⟨slot, own, inOrder⟩, fun p hp alive other => ?_⟩
  have seated := mem_others own hp other
  rw [order, List.mem_append] at seated
  rcases seated with behind | still
  · exact List.count_eq_one_of_mem distinct (all p hp alive behind)
  · rw [dead p hp still] at alive
    cases alive

/-- With nobody alive up to `id`, the round goes on at `id`. -/
theorem Round.of_dead {passed skipped later : List PlayerId} (own : r.slot? first = some slot)
    (order : r.others slot = passed ++ (skipped ++ id :: later)) (turns : had.Sublist passed)
    (all : ∀ p ∈ r.players, p.alive = true → p.id ∈ passed → p.id ∈ had)
    (dead : ∀ p ∈ r.players, p.id ∈ skipped → p.alive = false) :
    r.Round first id (had ++ [id]) := by
  have rest : r.others slot = (passed ++ skipped ++ [id]) ++ later := by
    rw [order]
    simp
  refine .intro own rest ?_ ?_ ?_
  · rw [List.getLast?_concat]
    rfl
  · exact (turns.trans (List.sublist_append_left _ _)).append (List.Sublist.refl _)
  · intro p hp alive behind
    rw [List.mem_append, List.mem_append] at behind
    rcases behind with (behind | passedOver) | same
    · exact List.mem_append_left _ (all p hp alive behind)
    · rw [dead p hp passedOver] at alive
      cases alive
    · exact List.mem_append_right _ same

/-- The first living player behind `holder` is `first`, and the round is whole, or another one, and
the round goes on. -/
theorem Round.next (h : r.Round first holder had) (lives : r.Lives first) {now : Nat}
    (here : r.slot? holder = some now)
    (found : (r.players.rotate (now + 1)).find? (·.alive) = some p) :
    p.id = first ∧ r.WholeRound first had ∨
      p.id ≠ first ∧ r.Round first p.id (had ++ [p.id]) := by
  obtain ⟨own, order, last, turns, all⟩ := h
  have seats : (r.players.rotate (now + 1)).map (·.id) = _ :=
    (List.map_rotate ..).trans (rotate_of_round own order last here)
  -- the players ahead come first, and then the one with whom the round began
  obtain ⟨front, back, cut, rfl, rest⟩ := List.map_eq_append_iff.mp seats
  obtain ⟨f, behind, rfl, rfl, rfl⟩ := List.map_eq_cons_iff.mp rest
  have seated {q : Player} (hq : q ∈ front ++ f :: behind) : q ∈ r.players := by
    rw [← cut] at hq
    exact List.mem_rotate.mp hq
  have dead_of {part : List Player} (within : ∀ q ∈ part, q ∈ r.players)
      (dead : ∀ q ∈ part, q.alive = false) :
      ∀ q ∈ r.players, q.id ∈ part.map (·.id) → q.alive = false := by
    intro q hq there
    obtain ⟨q', hq', same⟩ := List.mem_map.mp there
    rw [← eq_of_id_eq (within q' hq') hq same]
    exact dead q' hq'
  rw [cut, List.find?_append] at found
  cases ahead : front.find? (·.alive) with
  | none =>
    have living : f.alive = true := (lives_id_iff (seated (by simp))).mp lives
    rw [ahead, Option.none_or, List.find?_cons, living, Option.some.injEq] at found
    subst found
    have dead : ∀ q ∈ front, q.alive = false := by
      simpa using List.find?_eq_none.mp ahead
    refine .inl ⟨rfl, .of_dead own order turns all ?_⟩
    exact dead_of (fun q hq => seated (List.mem_append_left _ hq)) dead
  | some q =>
    rw [ahead, Option.some_or, Option.some.injEq] at found
    subst found
    obtain ⟨alive, skipped, later, rfl, dead⟩ := List.find?_eq_some_iff_append.mp ahead
    rw [List.map_append, List.map_cons] at order
    refine .inr ⟨?_, .of_dead own order turns all ?_⟩
    · intro same
      refine notMem_others own ?_
      rw [order, ← same]
      simp
    · exact dead_of (fun q hq => seated (by simp [hq])) (by simpa using dead)

end Roster

end Skirmish
