import Skirmish.Combat

/-!
# By how much an action changes health

`addHealth` saturates at both ends of 32 bits, and `Action.delta` is `health_delta` of the resolver.
With fair dice each action has bounds on its delta, and the two plain actions have a constant one.

Results:

* `toInt_addHealth`: `addHealth` as a sum that is clamped to 32 bits;
* `Action.deals_delta`: the delta of each action and the roll it takes;
* `Action.delta_within`: the delta lies from `Action.least` to `Action.most`;
* `Action.delta_of_isAttack`: the delta of an attack is from `-18` to `-6`.
-/

namespace Skirmish

/-- `addHealth` is the sum clamped to `[-2 ^ 31, 2 ^ 31 - 1]`. -/
theorem toInt_addHealth (a b : Int32) :
    (addHealth a b).toInt = max (-0x80000000) (min 0x7FFFFFFF (a.toInt + b.toInt)) := by
  have least : Int32.minValue.toInt = -0x80000000 := rfl
  have most : Int32.maxValue.toInt = 0x7FFFFFFF := rfl
  unfold addHealth Int32.ofIntClamp
  split
  · split
    · rw [Int32.toInt_ofIntLE]
      omega
    · omega
  · omega

theorem toInt_neg_of_le {n : Int32} (small : -0x80000000 < n.toInt) : (-n).toInt = -n.toInt := by
  have bound := n.toInt_lt
  rw [Int32.toInt_neg, Int.bmod_eq_of_le (by omega) (by omega)]

namespace Action

/-- The lower bound of `Action.delta`. -/
def least : Action → Int
  | .heal => Rules.healAmount.toInt
  | .healRandom => Rules.healLow.toInt
  | .attack => -Rules.attackAmount.toInt
  | .attackRandom => -Rules.attackHigh.toInt

/-- The upper bound of `Action.delta`. -/
def most : Action → Int
  | .heal => Rules.healAmount.toInt
  | .healRandom => Rules.healHigh.toInt
  | .attack => -Rules.attackAmount.toInt
  | .attackRandom => -Rules.attackLow.toInt

/-- Whether the delta is negative: `attack` and `attackRandom`. -/
def isAttack : Action → Bool
  | .attack | .attackRandom => true
  | .heal | .healRandom => false

variable {δ : Type} [Dice δ]

/-- `Deals dice action n after`: the delta `n` and the dice `after` it. A random action takes one
roll off `dice`, within its two constants; a plain one takes none and has a constant delta. -/
inductive Deals (dice : δ) : Action → Int → δ → Prop
  | heal : Deals dice .heal 10 dice
  | healRandom {n : Int32} {after : δ} (rolled : Dice.roll dice 5 15 = (n, after))
      (low : 5 ≤ n.toInt) (high : n.toInt ≤ 15) : Deals dice .healRandom n.toInt after
  | attack : Deals dice .attack (-12) dice
  | attackRandom {n : Int32} {after : δ} (rolled : Dice.roll dice 6 18 = (n, after))
      (low : 6 ≤ n.toInt) (high : n.toInt ≤ 18) : Deals dice .attackRandom (-n.toInt) after

theorem Deals.within {dice after : δ} {action : Action} {n : Int}
    (h : Deals dice action n after) : action.least ≤ n ∧ n ≤ action.most := by
  cases h with
  | heal | attack => decide
  | healRandom _ low high => exact ⟨low, high⟩
  | attackRandom _ low high => exact ⟨Int.neg_le_neg high, Int.neg_le_neg low⟩

variable [Dice.Fair δ]

theorem deals_delta (action : Action) (dice : δ) :
    Deals dice action (action.delta dice).1.toInt (action.delta dice).2 := by
  cases action with
  | heal => exact .heal
  | healRandom =>
    obtain ⟨low, high⟩ := Dice.Fair.within dice Rules.healLow Rules.healHigh (by decide)
    rw [Int32.le_iff_toInt_le] at low high
    exact .healRandom rfl low high
  | attack => exact .attack
  | attackRandom =>
    obtain ⟨low, high⟩ := Dice.Fair.within dice Rules.attackLow Rules.attackHigh (by decide)
    rw [Int32.le_iff_toInt_le] at low high
    have least : Rules.attackLow.toInt = 6 := rfl
    have small : -0x80000000 < (Dice.roll dice Rules.attackLow Rules.attackHigh).1.toInt := by omega
    have taken : (attackRandom.delta dice).1.toInt =
        -(Dice.roll dice Rules.attackLow Rules.attackHigh).1.toInt := toInt_neg_of_le small
    rw [taken]
    exact .attackRandom rfl low high

theorem delta_within (action : Action) (dice : δ) :
    action.least ≤ (action.delta dice).1.toInt ∧ (action.delta dice).1.toInt ≤ action.most :=
  (action.deals_delta dice).within

/-- The delta of an attack is from `-18` to `-6`. -/
theorem delta_of_isAttack {action : Action} (attack : action.isAttack = true) (dice : δ) :
    -18 ≤ (action.delta dice).1.toInt ∧ (action.delta dice).1.toInt ≤ -6 := by
  obtain ⟨low, high⟩ := action.delta_within dice
  have ends : -18 ≤ action.least ∧ action.most ≤ -6 := by
    cases action with
    | heal | healRandom => cases attack
    | attack | attackRandom => decide
  exact ⟨Int.le_trans ends.1 low, Int.le_trans high ends.2⟩

end Action

end Skirmish
