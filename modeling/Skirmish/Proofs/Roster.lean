import Mathlib.Data.List.Nodup
import Mathlib.Data.List.Count
import Skirmish.Roster.Lemmas

/-!
# Finding players again

The lookups `get?`, `slot?`, `byName` and `find` after each operation of the roster, and
`aliveCount`.

Results:

* `get?_eq_some_iff`, `slot?_eq_some_iff`, `slotOfName_eq_some_iff`, `find_eq_ok_iff`: an id or a
  name leads to the one player that has it;
* `get?_update`, `get?_updateAll`, `get?_of_register`, `get?_without`: lookups after a change;
* `players_update_split`, `update_of_unknown`, `map_update_of_keeps`: `update` changes one player;
* `register_of_players`, `register_error_cases`: when `register` is granted, and its refusals;
* `exists_other_alive`: of two living players one has another id;
* `aliveCount_update`, `aliveCount_update_of_dies`: how many live after a player has changed.
-/

namespace Skirmish

/-- The id and the name of a player. -/
def Player.seat (p : Player) : PlayerId × String :=
  (p.id, p.name)

namespace Roster

variable {r s : Roster} {id : PlayerId} {p q : Player}

/-! ## Numbers -/

/-- The ids of the players are distinct. -/
theorem eq_of_id_eq (hp : p ∈ r.players) (hq : q ∈ r.players) (h : p.id = q.id) : p = q :=
  List.inj_on_of_nodup_map r.ids_nodup hp hq h

theorem get?_eq_some_iff : r.get? id = some p ↔ p ∈ r.players ∧ p.id = id := by
  rw [get?_eq]
  constructor
  · intro h
    exact ⟨List.mem_of_find?_eq_some h, by simpa using List.find?_some h⟩
  · rintro ⟨hp, rfl⟩
    cases h : r.players.find? (·.id = p.id) with
    | none =>
      have := List.find?_eq_none.mp h p hp
      simp at this
    | some q =>
      have hq : q.id = p.id := by simpa using List.find?_some h
      rw [eq_of_id_eq (List.mem_of_find?_eq_some h) hp hq]

theorem mem_of_get? (h : r.get? id = some p) : p ∈ r.players :=
  (get?_eq_some_iff.mp h).1

theorem get?_id (hp : p ∈ r.players) : r.get? p.id = some p :=
  get?_eq_some_iff.mpr ⟨hp, rfl⟩

/-! ## Names -/

/-- The names of the players are distinct. -/
theorem eq_of_name_eq (hp : p ∈ r.players) (hq : q ∈ r.players) (h : p.name = q.name) : p = q :=
  List.inj_on_of_nodup_map r.names_nodup hp hq h

theorem find_eq_ok_iff {name : String} : r.find name = .ok p ↔ p ∈ r.players ∧ p.name = name := by
  rw [find_eq]
  constructor
  · intro h
    split at h
    · rename_i q found
      cases h
      exact ⟨List.mem_of_find?_eq_some found, by simpa using List.find?_some found⟩
    · cases h
  · rintro ⟨hp, rfl⟩
    split
    · rename_i q found
      have same : q.name = p.name := by simpa using List.find?_some found
      rw [eq_of_name_eq (List.mem_of_find?_eq_some found) hp same]
    · rename_i missing
      have := List.find?_eq_none.mp missing p hp
      simp at this

/-! ## Slots -/

/-- In a list without duplicates, `idxOf?` is the index of the element. -/
theorem idxOf?_map_eq_some_iff {κ : Type} [DecidableEq κ] {f : Player → κ} {players : List Player}
    (distinct : (players.map f).Nodup) {k : κ} {slot : Nat} :
    (players.map f).idxOf? k = some slot ↔ ∃ p, players[slot]? = some p ∧ f p = k := by
  rw [List.idxOf?_eq_some_iff]
  constructor
  · rintro ⟨bound, here, -⟩
    rw [List.length_map] at bound
    exact ⟨players[slot], List.getElem?_eq_getElem bound, by simpa using here⟩
  · rintro ⟨p, hp, rfl⟩
    obtain ⟨bound, rfl⟩ := List.getElem?_eq_some_iff.mp hp
    refine ⟨by simpa using bound, by simp, fun earlier before same => ?_⟩
    have differs := List.pairwise_iff_getElem.mp distinct earlier slot (by simp; omega)
      (by simpa using bound) before
    exact differs (by simpa using same)

theorem slot?_eq_some_iff {slot : Nat} :
    r.slot? id = some slot ↔ ∃ p, r.players[slot]? = some p ∧ p.id = id := by
  rw [slot?_eq]
  exact idxOf?_map_eq_some_iff r.ids_nodup

theorem slotOfName_eq_some_iff {name : String} {slot : Nat} :
    r.byName[name]? = some slot ↔ ∃ p, r.players[slot]? = some p ∧ p.name = name := by
  rw [slotOfName_eq]
  exact idxOf?_map_eq_some_iff r.names_nodup

theorem get?_isSome_of_slot? (h : r.slot? id ≠ none) : (r.get? id).isSome = true := by
  obtain ⟨slot, found⟩ := Option.ne_none_iff_exists'.mp h
  obtain ⟨p, here, -⟩ := slot?_eq_some_iff.mp found
  simp [get?, found, here]

theorem exists_slot? (found : r.get? id = some p) : ∃ slot, r.slot? id = some slot := by
  obtain ⟨hp, rfl⟩ := get?_eq_some_iff.mp found
  obtain ⟨slot, here⟩ := List.mem_iff_getElem?.mp hp
  exact ⟨slot, slot?_eq_some_iff.mpr ⟨p, here, rfl⟩⟩

theorem slot?_lt {slot : Nat} (h : r.slot? id = some slot) : slot < r.players.length := by
  obtain ⟨p, hp, -⟩ := slot?_eq_some_iff.mp h
  exact (List.getElem?_eq_some_iff.mp hp).1

/-! ## Changes -/

theorem get?_update (r : Roster) (id other : PlayerId) (f : Standing → Standing) :
    (r.update id f).get? other =
      (r.get? other).map fun p => if other = id then p.mapStanding f else p := by
  rw [get?_eq, players_update, List.find?_map, get?_eq]
  have keeps : (fun p : Player => decide (p.id = other)) ∘
      (fun p => if p.id = id then p.mapStanding f else p) = fun p => decide (p.id = other) := by
    funext p
    simp only [Function.comp]
    split <;> rfl
  rw [keeps]
  cases h : r.players.find? (·.id = other) with
  | none => rfl
  | some p =>
    have hp : p.id = other := by simpa using List.find?_some h
    simp [hp]

/-- `update` of a player that is found changes it and keeps those before and behind it. -/
theorem players_update_split (found : r.get? id = some p) (f : Standing → Standing) :
    ∃ before after, r.players = before ++ p :: after ∧
      (r.update id f).players = before ++ p.mapStanding f :: after := by
  obtain ⟨hp, rfl⟩ := get?_eq_some_iff.mp found
  obtain ⟨before, after, split⟩ := List.append_of_mem hp
  have distinct := r.ids_nodup
  rw [split, List.map_append, List.map_cons, List.nodup_middle, ← List.map_append] at distinct
  have others : ∀ q ∈ before ++ after, (if q.id = p.id then q.mapStanding f else q) = q :=
    fun q hq => if_neg fun same =>
      (List.nodup_cons.mp distinct).1 (List.mem_map.mpr ⟨q, hq, same⟩)
  rw [List.forall_mem_append] at others
  refine ⟨before, after, split, ?_⟩
  rw [players_update, split, List.map_append, List.map_cons, if_pos rfl,
    List.map_congr_left others.1, List.map_congr_left others.2, List.map_id', List.map_id']

/-- `update` of an unknown id changes nothing. -/
theorem update_of_unknown (unknown : r.get? id = none) (f : Standing → Standing) :
    r.update id f = r := by
  rw [get?_eq, List.find?_eq_none] at unknown
  have same : ∀ p ∈ r.players, (if p.id = id then p.mapStanding f else p) = p :=
    fun p hp => if_neg (by simpa using unknown p hp)
  refine ext (capacity_update r id f) ?_
  rw [players_update, List.map_congr_left same, List.map_id']

/-- If `f` keeps `g` of each player, so does `update id f`. -/
theorem map_update_of_keeps {β : Type} {g : Player → β} {f : Standing → Standing}
    (keeps : ∀ p, g (p.mapStanding f) = g p) (players : List Player) (id : PlayerId) :
    (players.map fun p => if p.id = id then p.mapStanding f else p).map g = players.map g := by
  rw [List.map_map]
  refine List.map_congr_left fun p _ => ?_
  rw [Function.comp]
  split
  · exact keeps p
  · rfl

theorem get?_updateAll (r : Roster) (id : PlayerId) (f : Standing → Standing) :
    (r.updateAll f).get? id = (r.get? id).map (·.mapStanding f) := by
  rw [get?_eq, players_updateAll, List.find?_map, get?_eq]
  rfl

/-- `register` is granted if there is a roster with its player behind the others: the invariants of
that roster pass the four checks. -/
theorem register_of_players {name : String} {ready : Bool} (capacity : s.capacity = r.capacity)
    (players : s.players = r.players ++ [.join id name ready]) :
    r.register id name ready = .ok s := by
  have ids : (r.players.map (·.id) ++ [id]).Nodup := by
    have all := s.ids_nodup
    rwa [players, List.map_append] at all
  have names : (r.players.map (·.name) ++ [name]).Nodup := by
    have all := s.names_nodup
    rwa [players, List.map_append] at all
  have room : r.players.length + 1 ≤ r.capacity := by
    simpa [players, capacity] using s.length_le
  have valid := s.names_valid (.join id name ready) (by simp [players])
  refine register_eq_ok_iff.mpr ⟨?_, ?_, valid, ?_, capacity, players⟩
  · rw [slot?_eq, List.idxOf?_eq_none_iff]
    exact fun there => (List.nodup_append.mp ids).2.2 id there id (by simp) rfl
  · show decide (r.capacity ≤ r.players.length) = false
    exact decide_eq_false (by omega)
  · rw [slotOfName_eq, List.idxOf?_eq_none_iff]
    exact fun there => (List.nodup_append.mp names).2.2 name there name (by simp) rfl

/-- `register` adds its player to what `get?` finds. -/
theorem get?_of_register {name : String} {ready : Bool} (h : r.register id name ready = .ok s)
    (other : PlayerId) :
    s.get? other = if other = id then some (.join id name ready) else r.get? other := by
  obtain ⟨unknown, -, -, -, -, players⟩ := register_eq_ok_iff.mp h
  have fresh : r.players.find? (·.id = id) = none := by
    rw [slot?_eq, List.idxOf?_eq_none_iff] at unknown
    rw [List.find?_eq_none]
    intro p hp same
    exact unknown (List.mem_map.mpr ⟨p, hp, by simpa using same⟩)
  rw [get?_eq, players, List.find?_append, get?_eq]
  by_cases hid : other = id
  · subst hid
    simp [fresh, Player.join]
  · have hid' : id ≠ other := fun same => hid same.symm
    simp [hid, hid', Player.join]

/-- The roster without the player `id`. -/
def without (r : Roster) (id : PlayerId) : Roster :=
  r.restrict (r.players.filter (·.id ≠ id)) List.filter_sublist

theorem remove_of_found (found : r.get? id = some p) : r.remove id = some (p, r.without id) := by
  rw [remove_eq, found]
  rfl

theorem get?_without (r : Roster) (id other : PlayerId) :
    (r.without id).get? other = if other = id then none else r.get? other := by
  rw [get?_eq, get?_eq]
  show (r.players.filter (·.id ≠ id)).find? (·.id = other) = _
  rw [List.find?_filter]
  by_cases hid : other = id
  · subst hid
    simp
  · rw [if_neg hid]
    congr 1
    funext p
    by_cases hp : p.id = other
    · simp [hp, hid]
    · simp [hp]

theorem register_of_known (known : (r.get? id).isSome = true) (name : String) (ready : Bool) :
    r.register id name ready = .error (.alreadyRegistered id) := by
  have slot : ¬r.byId[id]? = none := fun missing => by
    rw [get?, slot?, missing] at known
    cases known
  rw [register, dif_neg slot]

/-- The refusals of `register`, in the order of its checks: `alreadyRegistered`, `full`,
`invalidName` and `nameTaken`. -/
theorem register_error_cases {name : String} {ready : Bool} {why : Refusal}
    (refused : r.register id name ready = .error why) :
    why = .alreadyRegistered id ∧ (r.get? id).isSome = true ∨
      why = .full ∧ r.isFull = true ∨
      why = .invalidName name ∧ r.get? id = none ∧ r.isFull = false ∧
        PlayerName.isValid name = false ∨
      why = .nameTaken name ∧ PlayerName.isValid name = true := by
  unfold register at refused
  split at refused
  · rename_i unknown
    have missing : r.get? id = none := by rw [get?, slot?, unknown, Option.bind_none]
    split at refused
    · rename_i room
      split at refused
      · rename_i valid
        split at refused <;> cases refused
        exact .inr (.inr (.inr ⟨rfl, valid⟩))
      · rename_i invalid
        cases refused
        exact .inr (.inr (.inl ⟨rfl, missing, room, Bool.eq_false_iff.mpr invalid⟩))
    · rename_i full
      cases refused
      exact .inr (.inl ⟨rfl, by simpa using full⟩)
  · rename_i known
    cases refused
    exact .inl ⟨rfl, get?_isSome_of_slot? known⟩

/-! ## Who is alive -/

theorem one_le_aliveCount (hp : p ∈ r.players) (alive : p.alive = true) : 1 ≤ r.aliveCount :=
  List.countP_pos_iff.mpr ⟨p, hp, alive⟩

/-- If two players live, one of them has another id than `id`. -/
theorem exists_other_alive (two : 2 ≤ r.aliveCount) (id : PlayerId) :
    ∃ p ∈ r.players, p.alive = true ∧ p.id ≠ id := by
  by_contra none
  push Not at none
  -- otherwise all who live share a number, which comes only once
  have all : ∀ p ∈ r.players.filter (·.alive), p.id = id := fun p hp =>
    none p (List.mem_filter.mp hp).1 (List.mem_filter.mp hp).2
  have distinct : ((r.players.filter (·.alive)).map (·.id)).Nodup :=
    r.ids_nodup.sublist (List.filter_sublist.map _)
  rw [aliveCount, List.countP_eq_length_filter] at two
  match h : r.players.filter (·.alive) with
  | [] => simp [h] at two
  | [_] => simp [h] at two
  | a :: b :: rest =>
    rw [h] at all distinct
    have same : a.id = b.id := (all a (by simp)).trans (all b (by simp)).symm
    simp [same] at distinct

theorem aliveCount_update {f : Standing → Standing}
    (keeps : ∀ st : Standing, (f st).alive = st.alive) :
    (r.update id f).aliveCount = r.aliveCount := by
  have same : (fun q : Player => q.alive) ∘
      (fun q => if q.id = id then q.mapStanding f else q) = fun q => q.alive := by
    funext q
    rw [Function.comp]
    split
    · exact keeps q.toStanding
    · rfl
  rw [aliveCount, players_update, List.countP_map, same, aliveCount]

theorem aliveCount_updateAll {f : Standing → Standing}
    (keeps : ∀ st : Standing, (f st).alive = st.alive) :
    (r.updateAll f).aliveCount = r.aliveCount := by
  have same : (fun q : Player => q.alive) ∘ (fun q : Player => q.mapStanding f) =
      fun q => q.alive := by
    funext q
    exact keeps q.toStanding
  rw [aliveCount, players_updateAll, List.countP_map, same, aliveCount]

/-- `aliveCount` falls by one when a living player dies. -/
theorem aliveCount_update_of_dies {f : Standing → Standing} (found : r.get? id = some p)
    (alive : p.alive = true) (dies : (f p.toStanding).alive = false) :
    (r.update id f).aliveCount + 1 = r.aliveCount := by
  obtain ⟨before, after, old, new⟩ := players_update_split found f
  have gone : (p.mapStanding f).alive = false := dies
  rw [aliveCount, aliveCount, old, new, List.countP_append, List.countP_append, List.countP_cons,
    List.countP_cons, gone, alive]
  rfl

/-- `update` keeps the slots. -/
theorem slot?_update (r : Roster) (id other : PlayerId) (f : Standing → Standing) :
    (r.update id f).slot? other = r.slot? other := by
  have ids : (r.update id f).players.map (·.id) = r.players.map (·.id) := by
    rw [players_update]
    exact map_update_of_keeps (fun _ => rfl) r.players id
  rw [slot?_eq, slot?_eq, ids]

end Roster

end Skirmish
