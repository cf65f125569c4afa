import Skirmish.Roster

/-!
# The operations of a roster on its players

`register`, `remove`, `update` and `updateAll` as operations on the list of players, without slots
and indexes.

Results:

* `register_eq_ok_iff`: when a `register` is granted, and that it appends its player;
* `remove_eq`: `remove` filters the player out;
* `players_update`, `players_updateAll`: only standings change.
-/

namespace Skirmish.Roster

/-! ## Joining -/

theorem register_eq_ok_iff {r s : Roster} {id : PlayerId} {name : String} {ready : Bool} :
    r.register id name ready = .ok s ↔
      r.slot? id = none ∧ r.isFull = false ∧ PlayerName.isValid name = true ∧
        r.byName[name]? = none ∧ s.capacity = r.capacity ∧
        s.players = r.players ++ [.join id name ready] := by
  unfold register slot?
  split <;> rename_i unknown
  · split <;> rename_i room
    · split <;> rename_i valid
      · split <;> rename_i free
        · constructor
          · intro h
            cases h
            exact ⟨unknown, room, valid, free, rfl, rfl⟩
          · rintro ⟨_, _, _, _, capacity, players⟩
            exact congrArg _ (Roster.ext capacity.symm players.symm)
        · simp [free]
      · simp [valid]
    · simp [room]
  · simp [unknown]

/-! ## Leaving -/

theorem eraseIdx_idxOf {players : List Player} (distinct : (players.map (·.id)).Nodup)
    {id : PlayerId} {slot : Nat} (h : (players.map (·.id)).idxOf? id = some slot) :
    players.eraseIdx slot = players.filter (·.id ≠ id) := by
  induction players generalizing slot with
  | nil => simp at h
  | cons p rest ih =>
    have ⟨fresh, restDistinct⟩ := List.nodup_cons.mp distinct
    simp only [List.map_cons, List.idxOf?_cons, beq_iff_eq] at h
    by_cases hp : p.id = id
    · -- the player is here, and the rest stays as it is
      have others : rest.filter (·.id ≠ id) = rest :=
        List.filter_eq_self.mpr fun q hq => decide_eq_true fun same =>
          fresh (List.mem_map.mpr ⟨q, hq, same.trans hp.symm⟩)
      simp only [hp, if_true, Option.some.injEq] at h
      subst h
      rw [List.filter_cons_of_neg (by simp [hp]), others]
      rfl
    · simp only [hp, if_false, Option.map_eq_some_iff] at h
      obtain ⟨slot, hs, rfl⟩ := h
      simp [hp, ih restDistinct hs]

theorem remove_eq (r : Roster) (id : PlayerId) :
    r.remove id =
      (r.get? id).map (·, r.restrict (r.players.filter (·.id ≠ id)) List.filter_sublist) := by
  unfold remove get?
  cases h : r.slot? id with
  | none => rfl
  | some slot =>
    rw [slot?_eq] at h
    have erased := eraseIdx_idxOf r.ids_nodup h
    simp only [Option.bind_some]
    congr 1
    funext p
    exact congrArg (p, ·) (Roster.ext rfl erased)

/-! ## Changing standings -/

@[simp] theorem players_updateAll (r : Roster) (f : Standing → Standing) :
    (r.updateAll f).players = r.players.map (·.mapStanding f) := rfl

@[simp] theorem capacity_updateAll (r : Roster) (f : Standing → Standing) :
    (r.updateAll f).capacity = r.capacity := rfl

theorem modify_idxOf (f : Player → Player) {players : List Player}
    (distinct : (players.map (·.id)).Nodup) (id : PlayerId) :
    (match (players.map (·.id)).idxOf? id with
      | none => players
      | some slot => players.modify slot f) =
      players.map fun p => if p.id = id then f p else p := by
  induction players with
  | nil => rfl
  | cons p rest ih =>
    have ⟨fresh, restDistinct⟩ := List.nodup_cons.mp distinct
    simp only [List.map_cons, List.idxOf?_cons, beq_iff_eq]
    by_cases h : p.id = id
    · -- the player is here, and the rest stays as it is
      have others : ∀ q ∈ rest, (if q.id = id then f q else q) = q := fun q hq =>
        if_neg fun same => fresh (List.mem_map.mpr ⟨q, hq, same.trans h.symm⟩)
      simp [h, List.map_congr_left others]
    · rw [← ih restDistinct]
      cases (rest.map (·.id)).idxOf? id <;> simp [h]

theorem players_update (r : Roster) (id : PlayerId) (f : Standing → Standing) :
    (r.update id f).players = r.players.map fun p => if p.id = id then p.mapStanding f else p := by
  rw [← modify_idxOf (·.mapStanding f) r.ids_nodup, ← slot?_eq, update]
  cases r.slot? id <;> rfl

@[simp] theorem capacity_update (r : Roster) (id : PlayerId) (f : Standing → Standing) :
    (r.update id f).capacity = r.capacity := by
  unfold update
  split <;> rfl

end Skirmish.Roster
