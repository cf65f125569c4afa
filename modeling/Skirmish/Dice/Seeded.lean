import Skirmish.Dice
import Skirmish.Dice.KeyStream

/-!
# Dice from a seed

A roll takes words off a key stream until one of them is fair. With `range` numbers to choose
from, a word `w` chooses the number `w * range / 2 ^ 32` of them. So that each is as likely as any
other, a word is passed over when the low half of the product lies above the `zone`, which is a
multiple of `range` less one.

The stream of a key repeats after so many words (`period`), so a roll that has passed over that
many would pass over words for ever; it takes the low end instead.
-/

namespace Skirmish

namespace KeyStream

/-- The number of words after which `KeyStream.next` repeats: sixteen for each of the `2 ^ 64`
values of the counter. -/
def period : Nat := 0x100000000000000000

/-- The greatest low half of `w * range` with which `choose` takes the word `w`: `range` shifted
left until its top bit is set, less one. -/
def zone (range : UInt32) : UInt32 :=
  (range <<< (31 - range.log2)) - 1

/-- The high half of `w * range` for the first word `w` among the next `fuel` ones whose low half is
at most `zone range`, and the stream after it; `0` if there is none. -/
def choose (range : UInt32) : (fuel : Nat) → KeyStream → UInt32 × KeyStream
  | 0, k => (0, k)
  | fuel + 1, k =>
    let (w, k) := k.next
    let product := w.toUInt64 * range.toUInt64
    if product.toUInt32 ≤ zone range then ((product >>> 32).toUInt32, k)
    else choose range fuel k

/-- `gen_range`: `low` plus the choice among the `high - low + 1` numbers from `low` to `high`. If
these are all `2 ^ 32` numbers, which is `0` as a word, the next word itself. -/
def roll (k : KeyStream) (low high : Int32) : Int32 × KeyStream :=
  let range := UInt32.ofNat (high.toInt - low.toInt + 1).toNat
  if range = 0 then
    let (w, k) := k.next
    (w.toInt32, k)
  else
    let (n, k) := choose range period k
    (Int32.ofInt (low.toInt + n.toNat), k)

/-! ## A roll stays in its range -/

theorem choose_lt {range : UInt32} (h : 0 < range) (fuel : Nat) (k : KeyStream) :
    (choose range fuel k).1 < range := by
  induction fuel generalizing k with
  | zero => exact h
  | succ fuel ih =>
    simp only [choose]
    split
    · -- a word is below `2 ^ 32`, so its product is below `2 ^ 32 * range`
      have word := k.next.1.toNat_lt
      have product : k.next.1.toNat * range.toNat < 2 ^ 32 * range.toNat :=
        Nat.mul_lt_mul_of_pos_right word (UInt32.lt_iff_toNat_lt.mp h)
      have narrow := range.toNat_lt
      have half : k.next.1.toNat * range.toNat / 2 ^ 32 < range.toNat :=
        Nat.div_lt_of_lt_mul product
      rw [UInt32.lt_iff_toNat_lt, UInt64.toNat_toUInt32, UInt64.toNat_shiftRight, UInt64.toNat_mul,
        UInt32.toNat_toUInt64, UInt32.toNat_toUInt64, Nat.shiftRight_eq_div_pow,
        Nat.mod_eq_of_lt (show k.next.1.toNat * range.toNat < 2 ^ 64 by omega)]
      exact Nat.lt_of_le_of_lt (Nat.mod_le ..) half
    · exact ih _

theorem roll_within (k : KeyStream) {low high : Int32} (h : low ≤ high) :
    low ≤ (k.roll low high).1 ∧ (k.roll low high).1 ≤ high := by
  rw [Int32.le_iff_toInt_le] at h
  have lowBound := low.le_toInt
  have highBound := high.toInt_lt
  unfold roll
  simp only [Int32.le_iff_toInt_le]
  split
  next full =>
    -- the ends are the least and the greatest number there is
    have wraps := congrArg UInt32.toNat full
    simp only [UInt32.toNat_ofNat', UInt32.toNat_zero] at wraps
    have := k.next.1.toInt32.le_toInt
    have := k.next.1.toInt32.toInt_lt
    dsimp only
    omega
  next proper =>
    have positive : 0 < UInt32.ofNat (high.toInt - low.toInt + 1).toNat := by
      rw [UInt32.lt_iff_toNat_lt]
      exact Nat.pos_of_ne_zero fun z => proper (UInt32.toNat_inj.mp z)
    have below := UInt32.lt_iff_toNat_lt.mp (choose_lt positive period k)
    simp only [UInt32.toNat_ofNat'] at below
    have := Nat.mod_le (high.toInt - low.toInt + 1).toNat (2 ^ 32)
    rw [Int32.toInt_ofInt_of_le (by omega) (by omega)]
    omega

end KeyStream

instance : Dice KeyStream := ⟨KeyStream.roll⟩

instance : Dice.Fair KeyStream where
  within k _ _ h := k.roll_within h

end Skirmish
