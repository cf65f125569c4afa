import Skirmish.Packet

/-!
# Players

`Player`: an id, which is that of its connection, and a name, which are constant, and a `Standing`,
which changes in a game.

`Standing.change` renders `apply_health_delta`. It keeps a dead player as it is, so nobody is
raised.
-/

namespace Skirmish

/-- The number of a connection, and of the player that `Session.register` makes of it. -/
structure PlayerId where
  val : UInt32
deriving DecidableEq, Repr, Inhabited

namespace PlayerId

/-- How messages write a number: `#` and its decimal digits. -/
def text (id : PlayerId) : String :=
  "#" ++ toString id.val.toNat

instance : Ord PlayerId := ⟨compareOn (·.val)⟩

instance : Std.TransOrd PlayerId :=
  inferInstanceAs (Std.TransCmp (compareOn PlayerId.val))

instance : Std.LawfulEqOrd PlayerId where
  eq_of_compare {a b} h := by
    have : a.val = b.val := Std.compare_eq_iff_eq.mp h
    cases a; cases b; simp_all

end PlayerId

/-- The fields of a player that a session changes; `Player` adds those it does not. -/
structure Standing where
  health : Int32 := Rules.startingHealth
  /-- In the lobby: ready to play. In the game: done choosing a job. -/
  ready : Bool
  job : Job := .unassigned
  alive : Bool := true
deriving DecidableEq, Repr, Inhabited

/-- A row of a roster. -/
structure Player extends Standing where
  id : PlayerId
  name : String
deriving DecidableEq, Repr, Inhabited

/-- `saturating_add`: `a + b`, or the nearest end of the 32-bit range. -/
def addHealth (a b : Int32) : Int32 :=
  Int32.ofIntClamp (a.toInt + b.toInt)

namespace Standing

/-- `apply_health_delta`: a living player has `addHealth s.health delta` and lives if that is
positive; a dead one stays as it is. -/
def change (s : Standing) (delta : Int32) : Standing :=
  if s.alive then
    let health := addHealth s.health delta
    { s with health, alive := 0 < health }
  else s

/-- `forfeit` of a player: not alive, and `health` is the lesser of it and `0`. -/
def forfeit (s : Standing) : Standing :=
  { s with health := if s.health ≤ 0 then s.health else 0, alive := false }

end Standing

namespace Player

/-- `new` of a player: `Rules.startingHealth`, no job, alive. -/
def join (id : PlayerId) (name : String) (ready : Bool) : Player :=
  { id, name, ready }

/-- Replaces the standing of a player; `id` and `name` stay. -/
def mapStanding (p : Player) (f : Standing → Standing) : Player :=
  { p with toStanding := f p.toStanding }

/-- `snapshot` of a player: the fields that `Notice.phaseChanged` carries. -/
def snapshot (p : Player) : Snapshot :=
  { name := p.name, health := p.health, ready := p.ready, job := p.job }

end Player

end Skirmish
