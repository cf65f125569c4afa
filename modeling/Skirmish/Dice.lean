/-!
# Dice

`Dice` is what the resolver rolls with: `roll` gives a number between two ends, both included, and
the dice afterwards.

`Script` is the instance that gives a list of numbers in order.
-/

namespace Skirmish

/-- A source of rolls: `roll dice low high` is a number and the source that replaces `dice`. -/
class Dice (δ : Type) where
  /-- A number from `low` to `high`, and the source after it. -/
  roll : (dice : δ) → (low high : Int32) → Int32 × δ

/-- `low ≤ high` puts every roll of every source of the type between `low` and `high`. -/
class Dice.Fair (δ : Type) [Dice δ] : Prop where
  within (dice : δ) (low high : Int32) (h : low ≤ high) :
    low ≤ (Dice.roll dice low high).1 ∧ (Dice.roll dice low high).1 ≤ high

/-- The numbers that `Script.roll` still has to give, in order. -/
structure Script where
  rolls : List Int32
deriving DecidableEq, Repr

/-- `n` if `low ≤ n ≤ high`, otherwise the end of the range that `n` lies beyond. -/
def nearest (low high n : Int32) : Int32 :=
  if n < low then low else if high < n then high else n

theorem nearest_within {low high : Int32} (h : low ≤ high) (n : Int32) :
    low ≤ nearest low high n ∧ nearest low high n ≤ high := by
  simp only [nearest, Int32.le_iff_toInt_le, Int32.lt_iff_toInt_lt] at *
  split
  · omega
  · split <;> omega

/-- The `nearest` number to the next one of the script, and `low` when the script is at its end. -/
def Script.roll (s : Script) (low high : Int32) : Int32 × Script :=
  match s.rolls with
  | [] => (low, s)
  | n :: rest => (nearest low high n, ⟨rest⟩)

instance : Dice Script := ⟨Script.roll⟩

instance : Dice.Fair Script where
  within s low high h := by
    show low ≤ (s.roll low high).1 ∧ (s.roll low high).1 ≤ high
    unfold Script.roll
    split
    · exact ⟨Int32.le_refl _, h⟩
    · exact nearest_within h _

end Skirmish
