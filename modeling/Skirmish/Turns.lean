import Skirmish.Roster

/-!
# Whose turn it is

`TurnScheduler` (`Turns`) holds the id of the player whose turn it is, and passes it on in two ways:

* `Turns.advanceSelect`: to the first living player behind the slot of the holder, or `finished`;
* `Turns.advanceMain`: to the next living player round the roster, until at most one is left.

Both pass over the dead.
-/

namespace Skirmish

/-- `next_in_order`: the first slot behind `current` with a living player; from slot 0 if `current`
is `none`. -/
def nextInOrder (players : List Player) (current : Option Nat) : Option Nat :=
  let start := match current with
    | none => 0
    | some slot => slot + 1
  ((players.drop start).findIdx? (·.alive)).map (start + ·)

/-- `next_alive`: the first slot with a living player among `current + 1, …, current +
players.length`, counted modulo `players.length`. So `current` itself comes last. -/
def nextAlive (players : List Player) (current : Nat) : Option Nat :=
  let round := (List.range players.length).map fun step => (current + 1 + step) % players.length
  round.find? fun slot => players[slot]?.any (·.alive)

/-- The turn token; `TurnScheduler` of the server. -/
structure Turns where
  /-- Who has it, if anybody. -/
  holder : Option PlayerId := none
deriving DecidableEq, Repr, Inhabited

/-- What `Turns.advanceSelect` finds: who is next to choose, or that the walk is over. -/
inductive SelectStep
  | next (id : PlayerId)
  | finished
deriving DecidableEq, Repr

/-- What `Turns.advanceMain` finds: who is next, who is the only one alive, or that nobody is. -/
inductive MainStep
  | turn (id : PlayerId)
  | winner (id : PlayerId)
  | noSurvivors
deriving DecidableEq, Repr

namespace Turns

/-- `is_holder`: the player `id` has the token. -/
def isHolder (t : Turns) (id : PlayerId) : Bool :=
  t.holder = some id

/-- The slot of the holder; `none` if nobody has the token or its holder is not in the roster. -/
def holderSlot (t : Turns) (r : Roster) : Option Nat :=
  t.holder.bind r.slot?

/-- `begin`: the token for the first living player. -/
def start (r : Roster) : Turns :=
  ⟨(nextInOrder r.players none).bind fun slot => r.players[slot]?.map (·.id)⟩

/-- `advance_character_select`: the token goes to the first living player behind `holderSlot`; if
there is none, it stays and the walk is `finished`. -/
def advanceSelect (t : Turns) (r : Roster) : SelectStep × Turns :=
  match (nextInOrder r.players (t.holderSlot r)).bind (r.players[·]?) with
  | some p => (.next p.id, ⟨some p.id⟩)
  | none => (.finished, t)

/-- `advance_main` of the scheduler: the token goes to `nextAlive` of `holderSlot`, or of the last
slot if there is no `holderSlot`. With `aliveCount = 1` that player is the winner and the token is
gone, as it is if nobody lives. -/
def advanceMain (t : Turns) (r : Roster) : MainStep × Turns :=
  let slot := (t.holderSlot r).getD (r.players.length - 1)
  match (nextAlive r.players slot).bind (r.players[·]?) with
  | none => (.noSurvivors, ⟨none⟩)
  | some p =>
    if r.aliveCount = 1 then (.winner p.id, ⟨none⟩)
    else (.turn p.id, ⟨some p.id⟩)

end Turns

end Skirmish
