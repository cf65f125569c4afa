import Skirmish.Player
import Skirmish.PlayerName
import Skirmish.Slots

/-!
# The roster

The players of a session in the order in which they joined, which is the order of turns, together
with two indexes that find a player's slot by number and by name. The type holds what every
operation keeps:

* the indexes are the slots of the numbers and of the names;
* no number and no name comes twice, and every name is valid;
* there are no more players than the roster has room for.

So a roster is its players and its capacity (`Roster.ext`), and the indexes answer as a search of
the players would (`slot?_eq`, `get?_eq`).
-/

namespace Skirmish

/-- The players in the order in which they joined, with an index by number and one by name. The last
six fields are the invariant of every operation. -/
structure Roster where
  /-- How many players there is room for. -/
  capacity : Nat
  players : List Player
  /-- The slot of each number. -/
  byId : Slots PlayerId
  /-- The slot of each name. -/
  byName : Slots String
  byId_eq : byId = Slots.ofKeys (players.map (·.id))
  byName_eq : byName = Slots.ofKeys (players.map (·.name))
  ids_nodup : (players.map (·.id)).Nodup
  names_nodup : (players.map (·.name)).Nodup
  names_valid : ∀ p ∈ players, PlayerName.isValid p.name = true
  length_le : players.length ≤ capacity

namespace Roster

@[ext] theorem ext {r s : Roster} (capacity : r.capacity = s.capacity)
    (players : r.players = s.players) : r = s := by
  cases r; cases s; simp_all

/-- Why `register` or `find` fails; `RegistryError` of the server. -/
inductive Refusal
  | full
  | nameTaken (name : String)
  | invalidName (name : String)
  | alreadyRegistered (id : PlayerId)
  | noSuchName (name : String)
deriving DecidableEq, Repr

/-- The text of a refusal, as `Notice.disconnected` carries it. -/
def Refusal.message : Refusal → String
  | .full => "Server full"
  | .nameTaken name => "Name '" ++ name ++ "' is already taken"
  | .invalidName name => "Invalid name '" ++ name ++ "'"
  | .alreadyRegistered id => "Connection " ++ id.text ++ " is already registered"
  | .noSuchName name => "No player named '" ++ name ++ "'"

/-- `new` of a roster: no players, and room for `capacity`. -/
def empty (capacity : Nat) : Roster where
  capacity := capacity
  players := []
  byId := ∅
  byName := ∅
  byId_eq := rfl
  byName_eq := rfl
  ids_nodup := List.nodup_nil
  names_nodup := List.nodup_nil
  names_valid := by simp
  length_le := Nat.zero_le _

/-! ## Looking up -/

/-- `index_of`: the position of the player `id` in `players`. -/
def slot? (r : Roster) (id : PlayerId) : Option Nat :=
  r.byId[id]?

/-- `get`: the player `id`. -/
def get? (r : Roster) (id : PlayerId) : Option Player :=
  (r.slot? id).bind (r.players[·]?)

/-- `find_by_name`: the player of a name, or `noSuchName`. -/
def find (r : Roster) (name : String) : Except Refusal Player :=
  match r.byName[name]?.bind (r.players[·]?) with
  | some p => .ok p
  | none => .error (.noSuchName name)

/-- `is_full`: there are at least `capacity` players. -/
def isFull (r : Roster) : Bool :=
  r.capacity ≤ r.players.length

/-- `all_ready`: every player is `ready`; so also if there is none. -/
def allReady (r : Roster) : Bool :=
  r.players.all (·.ready)

/-- `alive_count`: the number of players that are `alive`. -/
def aliveCount (r : Roster) : Nat :=
  r.players.countP (·.alive)

/-- `snapshots`: `Player.snapshot` of all players, in order. -/
def snapshots (r : Roster) : List Snapshot :=
  r.players.map Player.snapshot

/-! ## The indexes answer as a search would -/

theorem slot?_eq (r : Roster) (id : PlayerId) : r.slot? id = (r.players.map (·.id)).idxOf? id := by
  rw [slot?, r.byId_eq, Slots.getElem?_ofKeys r.ids_nodup]

theorem slotOfName_eq (r : Roster) (name : String) :
    r.byName[name]? = (r.players.map (·.name)).idxOf? name := by
  rw [r.byName_eq, Slots.getElem?_ofKeys r.names_nodup]

/-- The player in the slot that `idxOf?` finds for `k` is the first one with `f p = k`. -/
theorem bind_idxOf?_map {κ : Type} [DecidableEq κ] (f : Player → κ) (players : List Player)
    (k : κ) :
    ((players.map f).idxOf? k).bind (players[·]?) = players.find? (f · = k) := by
  induction players with
  | nil => rfl
  | cons p rest ih =>
    by_cases h : f p = k
    · simp [List.idxOf?_cons, h]
    · simp only [List.map_cons, List.idxOf?_cons, beq_iff_eq, h, if_false, List.find?_cons,
        decide_false, ← ih]
      cases (rest.map f).idxOf? k <;> simp

theorem get?_eq (r : Roster) (id : PlayerId) : r.get? id = r.players.find? (·.id = id) := by
  rw [get?, slot?_eq, bind_idxOf?_map]

theorem find_eq (r : Roster) (name : String) :
    r.find name =
      match r.players.find? (·.name = name) with
      | some p => .ok p
      | none => .error (.noSuchName name) := by
  rw [find, slotOfName_eq, bind_idxOf?_map]

/-! ## Joining and leaving -/

/-- `register` of a roster: `Player.join id name ready` behind the other players. Refused, in this
order, as `alreadyRegistered`, `full`, `invalidName` or `nameTaken`. -/
def register (r : Roster) (id : PlayerId) (name : String) (ready : Bool) : Except Refusal Roster :=
  if unknown : r.byId[id]? = none then
    if room : r.isFull = false then
      if valid : PlayerName.isValid name = true then
        if free : r.byName[name]? = none then
          .ok {
            capacity := r.capacity
            players := r.players ++ [.join id name ready]
            byId := r.byId.insert id r.players.length
            byName := r.byName.insert name r.players.length
            byId_eq := by simp [r.byId_eq, Slots.ofKeys_concat, Player.join]
            byName_eq := by simp [r.byName_eq, Slots.ofKeys_concat, Player.join]
            ids_nodup := by
              have : id ∉ r.players.map (·.id) := by
                rw [← List.idxOf?_eq_none_iff, ← slot?_eq]; exact unknown
              simpa [List.nodup_append, r.ids_nodup, Player.join] using this
            names_nodup := by
              have : name ∉ r.players.map (·.name) := by
                rw [← List.idxOf?_eq_none_iff, ← slotOfName_eq]; exact free
              simpa [List.nodup_append, r.names_nodup, Player.join] using this
            names_valid := by
              intro p hp
              rcases List.mem_append.mp hp with h | h
              · exact r.names_valid p h
              · rw [List.mem_singleton.mp h]; exact valid
            length_le := by
              have : r.players.length < r.capacity := by simpa [isFull] using room
              simp only [List.length_append, List.length_singleton]
              omega }
        else .error (.nameTaken name)
      else .error (.invalidName name)
    else .error .full
  else .error (.alreadyRegistered id)

/-- The roster of some of the players of `r`, with the indexes of `reindex`. -/
def restrict (r : Roster) (players : List Player) (part : players.Sublist r.players) : Roster where
  capacity := r.capacity
  players := players
  byId := Slots.ofKeys (players.map (·.id))
  byName := Slots.ofKeys (players.map (·.name))
  byId_eq := rfl
  byName_eq := rfl
  ids_nodup := r.ids_nodup.sublist (part.map _)
  names_nodup := r.names_nodup.sublist (part.map _)
  names_valid p hp := r.names_valid p (part.subset hp)
  length_le := Nat.le_trans part.length_le r.length_le

/-- `remove`: the player `id` and the roster without it, in which all behind it move up; `none` if
there is no such player. -/
def remove (r : Roster) (id : PlayerId) : Option (Player × Roster) :=
  match r.slot? id with
  | none => none
  | some slot =>
    r.players[slot]?.map (·, r.restrict (r.players.eraseIdx slot) (List.eraseIdx_sublist ..))

/-! ## Changing standings -/

/-- The roster with other standings: `players` with the ids and names of `r`, so that the indexes
stay. -/
def restand (r : Roster) (players : List Player) (ids : players.map (·.id) = r.players.map (·.id))
    (names : players.map (·.name) = r.players.map (·.name)) : Roster where
  capacity := r.capacity
  players := players
  byId := r.byId
  byName := r.byName
  byId_eq := by rw [ids, r.byId_eq]
  byName_eq := by rw [names, r.byName_eq]
  ids_nodup := ids ▸ r.ids_nodup
  names_nodup := names ▸ r.names_nodup
  names_valid := by
    have valid : ∀ n ∈ r.players.map (·.name), PlayerName.isValid n = true := by
      simpa using r.names_valid
    rw [← names] at valid
    simpa using valid
  length_le := by
    have : players.length = r.players.length := by simpa using congrArg List.length ids
    rw [this]; exact r.length_le

theorem map_modify_eq {β : Type} (g : Player → β) (f : Player → Player) (h : ∀ p, g (f p) = g p)
    (players : List Player) (slot : Nat) : (players.modify slot f).map g = players.map g := by
  induction players generalizing slot with
  | nil => cases slot <;> rfl
  | cons p rest ih =>
    cases slot with
    | zero => simp [h]
    | succ slot => simp [ih]

/-- `get_mut` and a change: `f` on the standing of the player `id`, if there is one. -/
def update (r : Roster) (id : PlayerId) (f : Standing → Standing) : Roster :=
  match r.slot? id with
  | none => r
  | some slot =>
    r.restand (r.players.modify slot (·.mapStanding f))
      (map_modify_eq (·.id) (·.mapStanding f) (fun _ => rfl) ..)
      (map_modify_eq (·.name) (·.mapStanding f) (fun _ => rfl) ..)

/-- `players_mut` and a change: `f` on the standing of every player. -/
def updateAll (r : Roster) (f : Standing → Standing) : Roster :=
  r.restand (r.players.map (·.mapStanding f)) (by simp [Player.mapStanding])
    (by simp [Player.mapStanding])

end Roster

end Skirmish
