import Skirmish.Dice
import Skirmish.Player

/-!
# Healing and attacking

`health_delta`, `resolve` and `describe` of the resolver: what an `Action` does to the health of its
target, and the line about it. Only the random actions roll.
-/

namespace Skirmish

namespace Action

/-- `health_delta`: what `action` adds to the health of its target, and the dice after it. Only
`healRandom` and `attackRandom` roll. -/
def delta {δ : Type} [Dice δ] (action : Action) (dice : δ) : Int32 × δ :=
  match action with
  | .heal => (Rules.healAmount, dice)
  | .healRandom => Dice.roll dice Rules.healLow Rules.healHigh
  | .attack => (-Rules.attackAmount, dice)
  | .attackRandom =>
    let (n, dice) := Dice.roll dice Rules.attackLow Rules.attackHigh
    (-n, dice)

/-- The verb of `describe`. -/
def verb : Action → String
  | .heal => "healed"
  | .healRandom => "randomly healed"
  | .attack => "attacked"
  | .attackRandom => "randomly attacked"

/-- `describe`: the line that tells everybody of an action, with `|delta|`. -/
def describe (action : Action) (actor target : String) (delta : Int32) : String :=
  actor ++ " " ++ action.verb ++ " " ++ target ++ " for " ++ toString delta.toInt.natAbs

end Action

/-- `Resolution`: what `Action.resolve` did. -/
structure Resolution where
  /-- The signed amount that was applied, before saturation. -/
  delta : Int32
  /-- The health of the target afterwards. -/
  health : Int32
  /-- Whether the target died of it. -/
  died : Bool
deriving DecidableEq, Repr

/-- Alive before and not after. -/
def Standing.diedInto (before after : Standing) : Bool :=
  before.alive && !after.alive

/-- `resolve`: one `Action.delta`, taken by `Standing.change`. The result, the standing of the
target afterwards and the dice. -/
def Action.resolve {δ : Type} [Dice δ] (action : Action) (target : Standing) (dice : δ) :
    Resolution × Standing × δ :=
  let (delta, dice) := action.delta dice
  let after := target.change delta
  (⟨delta, after.health, target.diedInto after⟩, after, dice)

end Skirmish
