import Mathlib.Data.List.Induction
import Skirmish.Proofs.Roster

/-!
# A roster is its list of players

The roster against its specification `Plain`: a list of players without indexes, searched from the
front, where `register` appends, `remove` filters and an update maps. For any list of operations the
replies and the answers to all questions are the same.

Which seats are taken in the end also follows from the record of operations and replies, without any
list: those that a `register` got and no later `remove` named (`seated`).

Results:

* `register_eq`, `apply_refines`: one operation does to the roster what it does to the list;
* `mirrors`: every question is answered by a search of the list;
* `seated_concat`, `seated_run`: the seats in the list are those of the record;
* `remove_of_register`: `remove` right after `register` undoes it;
* `mirrors_plain_of_run`: all of this for every list of operations.
-/

namespace Skirmish

/-! ## Doing things one after the other -/

/-- `step` of the inputs in order, with all replies. -/
def runWith {σ ι ο : Type} (step : σ → ι → ο × σ) (s : σ) : List ι → List ο × σ
  | [] => ([], s)
  | i :: rest =>
    let (reply, next) := step s i
    let (replies, last) := runWith step next rest
    (reply :: replies, last)

section

variable {σ ι ο : Type} (step : σ → ι → ο × σ) (s : σ)

theorem runWith_concat (is : List ι) (i : ι) :
    runWith step s (is ++ [i]) =
      ((runWith step s is).1 ++ [(step (runWith step s is).2 i).1],
        (step (runWith step s is).2 i).2) := by
  induction is generalizing s with
  | nil => rfl
  | cons j rest ih => simp [runWith, ih]

theorem length_runWith (is : List ι) : (runWith step s is).1.length = is.length := by
  induction is generalizing s with
  | nil => rfl
  | cons i rest ih => simp [runWith, ih]

end

namespace Roster

/-! ## What can be done to a roster -/

/-- An operation on a roster. -/
inductive Op
  | register (id : PlayerId) (name : String) (ready : Bool)
  | remove (id : PlayerId)
  /-- `update`: `f` on the standing of player `id`, if it is registered. -/
  | update (id : PlayerId) (f : Standing → Standing)
  /-- `updateEach`: the standing of every player `p` becomes `f p`. -/
  | updateEach (f : Player → Standing)

/-- The reply to an operation. -/
inductive Reply
  /-- The result of `register`. -/
  | joined (outcome : Except Refusal PlayerId)
  /-- The player of the `id` before the operation. -/
  | player (found : Option Player)
  /-- All players before the operation. -/
  | players (all : List Player)

/-- The roster in which the standing of every player `p` is `f p`, which is all that `players_mut`
allows. `updateAll f` is `updateEach (f ·.toStanding)`. -/
def updateEach (r : Roster) (f : Player → Standing) : Roster :=
  r.restand (r.players.map fun p => p.mapStanding fun _ => f p) (by simp [Player.mapStanding])
    (by simp [Player.mapStanding])

/-- An operation on a roster. -/
def apply (r : Roster) : Op → Reply × Roster
  | .register id name ready =>
    match r.register id name ready with
    | .ok s => (.joined (.ok id), s)
    | .error why => (.joined (.error why), r)
  | .remove id =>
    match r.remove id with
    | some (p, s) => (.player (some p), s)
    | none => (.player none, r)
  | .update id f => (.player (r.get? id), r.update id f)
  | .updateEach f => (.players r.players, r.updateEach f)

/-! ## The plain list -/

namespace Plain

variable (capacity : Nat) (players : List Player)

/-- `register` on the list: its four checks in order, and then the player at the end. -/
def join (id : PlayerId) (name : String) (ready : Bool) : Except Refusal (List Player) :=
  if players.any (·.id = id) then .error (.alreadyRegistered id)
  else if capacity ≤ players.length then .error .full
  else if ¬PlayerName.isValid name then .error (.invalidName name)
  else if players.any (·.name = name) then .error (.nameTaken name)
  else .ok (players ++ [.join id name ready])

variable {capacity players} in
theorem eq_of_join {id : PlayerId} {name : String} {ready : Bool} {more : List Player}
    (joins : join capacity players id name ready = .ok more) :
    more = players ++ [.join id name ready] := by
  unfold join at joins
  split at joins
  · cases joins
  · split at joins
    · cases joins
    · split at joins
      · cases joins
      · split at joins
        · cases joins
        · cases joins
          rfl

/-- An operation on the list. -/
def apply : Op → Reply × List Player
  | .register id name ready =>
    match join capacity players id name ready with
    | .ok more => (.joined (.ok id), more)
    | .error why => (.joined (.error why), players)
  | .remove id => (.player (players.find? (·.id = id)), players.filter (·.id ≠ id))
  | .update id f =>
    (.player (players.find? (·.id = id)),
      players.map fun p => if p.id = id then p.mapStanding f else p)
  | .updateEach f => (.players players, players.map fun p => p.mapStanding fun _ => f p)

end Plain

/-! ## Operations -/

variable {r s : Roster} {id : PlayerId} {name : String} {ready : Bool}

theorem byId_eq_none_iff : r.byId[id]? = none ↔ r.players.any (·.id = id) = false := by
  have slots : r.byId[id]? = (r.players.map (·.id)).idxOf? id := r.slot?_eq id
  rw [slots, List.idxOf?_eq_none_iff]
  simp

theorem byName_eq_none_iff : r.byName[name]? = none ↔ r.players.any (·.name = name) = false := by
  rw [slotOfName_eq, List.idxOf?_eq_none_iff]
  simp

/-- `register` accepts and refuses as `Plain.join` does, and leaves the same players. -/
theorem register_eq (r : Roster) (id : PlayerId) (name : String) (ready : Bool) :
    (r.register id name ready).map (·.players) =
      Plain.join r.capacity r.players id name ready := by
  unfold register Plain.join
  -- both sides look at the number, the room, the name and whether it is free, in this order
  by_cases unknown : r.byId[id]? = none
  · rw [dif_pos unknown, byId_eq_none_iff.mp unknown, if_neg Bool.false_ne_true]
    by_cases room : r.isFull = false
    · have fewer : ¬r.capacity ≤ r.players.length := by simpa [isFull] using room
      rw [dif_pos room, if_neg fewer]
      by_cases valid : PlayerName.isValid name = true
      · rw [dif_pos valid, if_neg (not_not.mpr valid)]
        by_cases free : r.byName[name]? = none
        · rw [dif_pos free, byName_eq_none_iff.mp free, if_neg Bool.false_ne_true]
          rfl
        · rw [dif_neg free, if_pos (eq_true_of_ne_false (mt byName_eq_none_iff.mpr free))]
          rfl
      · rw [dif_neg valid, if_pos valid]
        rfl
    · have crowded : r.capacity ≤ r.players.length := by simpa [isFull] using room
      rw [dif_neg room, if_pos crowded]
      rfl
  · rw [dif_neg unknown, if_pos (eq_true_of_ne_false (mt byId_eq_none_iff.mpr unknown))]
    rfl

theorem filter_id_of_missing (missing : r.get? id = none) :
    r.players.filter (·.id ≠ id) = r.players := by
  rw [get?_eq, List.find?_eq_none] at missing
  exact List.filter_eq_self.mpr fun p hp => by simpa using missing p hp

/-- An operation gives the reply of `Plain.apply` and leaves its players, with the same capacity. -/
theorem apply_refines (r : Roster) (op : Op) :
    (r.apply op).1 = (Plain.apply r.capacity r.players op).1 ∧
      (r.apply op).2.players = (Plain.apply r.capacity r.players op).2 ∧
      (r.apply op).2.capacity = r.capacity := by
  cases op with
  | register id name ready =>
    have joins := register_eq r id name ready
    simp only [apply, Plain.apply, ← joins]
    cases outcome : r.register id name ready with
    | ok s =>
      obtain ⟨-, -, -, -, capacity, -⟩ := register_eq_ok_iff.mp outcome
      exact ⟨rfl, rfl, capacity⟩
    | error why => exact ⟨rfl, rfl, rfl⟩
  | remove id =>
    simp only [apply, Plain.apply, ← get?_eq]
    cases found : r.get? id with
    | none =>
      -- nobody is found, and nobody is filtered out of the list
      rw [remove_eq, found]
      exact ⟨rfl, (filter_id_of_missing found).symm, rfl⟩
    | some p =>
      rw [remove_of_found found]
      exact ⟨rfl, rfl, rfl⟩
  | update id f =>
    exact ⟨congrArg Reply.player (r.get?_eq id), players_update r id f, capacity_update r id f⟩
  | updateEach f => exact ⟨rfl, rfl, rfl⟩

theorem run_refines (r : Roster) (ops : List Op) :
    (runWith apply r ops).1 = (runWith (Plain.apply r.capacity) r.players ops).1 ∧
      (runWith apply r ops).2.players = (runWith (Plain.apply r.capacity) r.players ops).2 ∧
      (runWith apply r ops).2.capacity = r.capacity := by
  induction ops generalizing r with
  | nil => exact ⟨rfl, rfl, rfl⟩
  | cons op rest ih =>
    obtain ⟨reply, players, capacity⟩ := apply_refines r op
    obtain ⟨replies, lastPlayers, lastCapacity⟩ := ih (r.apply op).2
    rw [capacity, players] at replies lastPlayers
    simp only [runWith]
    exact ⟨by rw [reply, replies], lastPlayers, lastCapacity.trans capacity⟩

/-! ## Questions -/

/-- The invariant of a list of players: distinct ids and names, valid names, and at most `capacity`.
-/
structure Tidy (capacity : Nat) (players : List Player) : Prop where
  ids : (players.map (·.id)).Nodup
  names : (players.map (·.name)).Nodup
  valid : ∀ p ∈ players, PlayerName.isValid p.name = true
  few : players.length ≤ capacity

theorem tidy (r : Roster) : Tidy r.capacity r.players :=
  ⟨r.ids_nodup, r.names_nodup, r.names_valid, r.length_le⟩

/-- The roster has these players. Both indexes lead to the places of ids and names in the list, and
the lookups answer as `findIdx?` and `find?` on it. -/
structure Mirrors (r : Roster) (players : List Player) : Prop where
  players_eq : r.players = players
  byId : ∀ id slot, r.byId[id]? = some slot ↔ ∃ p : Player, players[slot]? = some p ∧ p.id = id
  byName : ∀ name slot,
    r.byName[name]? = some slot ↔ ∃ p : Player, players[slot]? = some p ∧ p.name = name
  slot : ∀ id, r.slot? id = players.findIdx? (·.id = id)
  get : ∀ id, r.get? id = players.find? (·.id = id)
  find : ∀ name, r.find name =
    match players.find? (·.name = name) with
    | some p => .ok p
    | none => .error (.noSuchName name)

theorem mirrors (r : Roster) : r.Mirrors r.players where
  players_eq := rfl
  byId _ _ := slot?_eq_some_iff
  byName _ _ := slotOfName_eq_some_iff
  slot id := by
    rw [slot?_eq, List.idxOf?, List.findIdx?_map]
    rfl
  get := r.get?_eq
  find := r.find_eq

/-! ## Seats -/

/-- Whether the operation is `remove id`. -/
def Op.removes : Op → PlayerId → Bool
  | .remove other, id => id = other
  | .register .., _ | .update .., _ | .updateEach _, _ => false

/-- The id and the name of a `register` that was granted. -/
def seat? : Op × Reply → Option (PlayerId × String)
  | (.register id name _, .joined (.ok _)) => some (id, name)
  | _ => none

/-- The seats that a `register` got and no later `remove` named, in the order of the record. -/
def seated : List (Op × Reply) → List (PlayerId × String)
  | [] => []
  | entry :: later =>
    (seat? entry).toList.filter (fun seat => !later.any (·.1.removes seat.1)) ++ seated later

/-- One more entry takes the seats away that it removes, and adds its own at the end. -/
theorem seated_concat (record : List (Op × Reply)) (entry : Op × Reply) :
    seated (record ++ [entry]) =
      (seated record).filter (fun seat => !entry.1.removes seat.1) ++ (seat? entry).toList := by
  induction record with
  | nil => simp [seated]
  | cons first later ih =>
    -- the seat of the first entry is lost to something in between or to the last one
    rw [List.cons_append, seated, ih, seated, List.filter_append, List.filter_filter,
      List.append_assoc]
    simp [Bool.and_comm]

/-- The seats of the list after one operation. -/
theorem seats_apply (capacity : Nat) (players : List Player) (op : Op) :
    let step := Plain.apply capacity players op
    step.2.map Player.seat =
      (players.map Player.seat).filter (fun seat => !op.removes seat.1) ++
        (seat? (op, step.1)).toList := by
  have all (seats : List (PlayerId × String)) : seats.filter (fun _ => !false) = seats :=
    List.filter_eq_self.mpr fun _ _ => rfl
  cases op with
  | register id name ready =>
    simp only [Plain.apply, Op.removes, all]
    cases outcome : Plain.join capacity players id name ready with
    | ok more =>
      rw [Plain.eq_of_join outcome, List.map_append]
      rfl
    | error why => exact (List.append_nil _).symm
  | remove id =>
    simp only [Plain.apply, Op.removes, seat?, Option.toList_none, List.append_nil,
      List.filter_map]
    congr 1
    exact List.filter_congr fun p _ => decide_not
  | update id f =>
    simp only [Plain.apply, Op.removes, all, seat?, Option.toList_none, List.append_nil]
    exact map_update_of_keeps (fun _ => rfl) players id
  | updateEach f =>
    simp only [Plain.apply, Op.removes, all, List.map_map, seat?, Option.toList_none,
      List.append_nil]
    rfl

/-- The seats of the list after a run are those of its record. -/
theorem seated_run (capacity : Nat) (ops : List Op) :
    (runWith (Plain.apply capacity) [] ops).2.map Player.seat =
      seated (ops.zip (runWith (Plain.apply capacity) [] ops).1) := by
  induction ops using List.reverseRecOn with
  | nil => rfl
  | append_singleton ops op ih =>
    have length := length_runWith (Plain.apply capacity) [] ops
    rw [runWith_concat, List.zip_append length.symm, List.zip_cons_cons, List.zip_nil_left,
      seated_concat, ← ih]
    exact seats_apply capacity _ op

/-! ## Joining and leaving at once -/

/-- `remove id` after a `register` of `id` that was granted gives back that player and the roster
before. -/
theorem remove_of_register (joins : r.register id name ready = .ok s) :
    s.remove id = some (.join id name ready, r) := by
  have found : s.get? id = some (.join id name ready) := by
    rw [get?_of_register joins, if_pos rfl]
  obtain ⟨unknown, -, -, -, capacity, players⟩ := register_eq_ok_iff.mp joins
  have missing : r.get? id = none := by rw [get?, unknown, Option.bind_none]
  have back : s.without id = r := by
    refine Roster.ext capacity ?_
    show s.players.filter (·.id ≠ id) = r.players
    rw [players, List.filter_append, filter_id_of_missing missing]
    simp [Player.join]
  rw [remove_of_found found, back]

/-! ## Runs -/

/-- For every list of operations from an empty roster: the replies are those of `Plain.apply`, the
roster `Mirrors` the list, the list is `Tidy`, and its seats are `seated` by the record. A granted
`register` that is followed by `remove` of the same id leaves the roster as it was. -/
theorem mirrors_plain_of_run (capacity : Nat) (ops : List Op) :
    let run := runWith apply (empty capacity) ops
    let plain := runWith (Plain.apply capacity) [] ops
    run.1 = plain.1 ∧ run.2.capacity = capacity ∧ run.2.Mirrors plain.2 ∧ Tidy capacity plain.2 ∧
      plain.2.map Player.seat = seated (ops.zip run.1) ∧
      ∀ id name ready s, run.2.register id name ready = .ok s →
        s.remove id = some (.join id name ready, run.2) := by
  obtain ⟨replies, players, room⟩ := run_refines (empty capacity) ops
  intro run plain
  have same : run.2.players = plain.2 := players
  have replied : run.1 = plain.1 := replies
  have capacity_eq : run.2.capacity = capacity := room
  refine ⟨replied, capacity_eq, same ▸ run.2.mirrors, ?_, ?_, fun _ _ _ _ => remove_of_register⟩
  · rw [← same]
    exact capacity_eq ▸ run.2.tidy
  · rw [replied]
    exact seated_run capacity ops

/-- The second of three players is removed, and a fourth `register` takes its name. -/
def takeover : List Op :=
  [.register ⟨1⟩ "A" true, .register ⟨2⟩ "B" true, .register ⟨3⟩ "C" true, .remove ⟨2⟩,
    .register ⟨4⟩ "B" false]

/-- After `takeover` the players behind have moved up in both indexes. -/
theorem mirrors_plain_of_run_takeover :
    let r := (runWith apply (empty 4) takeover).2
    r.players.map Player.seat = [(⟨1⟩, "A"), (⟨3⟩, "C"), (⟨4⟩, "B")] ∧
      r.slot? ⟨4⟩ = some 2 ∧ r.slot? ⟨2⟩ = none ∧
      ∃ s, r.register ⟨5⟩ "D" true = .ok s ∧ s.remove ⟨5⟩ = some (.join ⟨5⟩ "D" true, r) := by
  intro r
  obtain ⟨-, -, mirrors, -, seats, undo⟩ := mirrors_plain_of_run 4 takeover
  have order : r.players.map Player.seat = [(⟨1⟩, "A"), (⟨3⟩, "C"), (⟨4⟩, "B")] := by
    rw [mirrors.players_eq, seats]
    decide +kernel
  refine ⟨order, ?_, ?_, ?_⟩
  · rw [mirrors.slot]
    decide +kernel
  · rw [mirrors.slot]
    decide +kernel
  · cases joins : r.register ⟨5⟩ "D" true with
    | ok s => exact ⟨s, rfl, undo ⟨5⟩ "D" true s joins⟩
    | error why =>
      have granted : (r.register ⟨5⟩ "D" true).isOk = true := by decide +kernel
      rw [joins] at granted
      cases granted

end Roster

end Skirmish
