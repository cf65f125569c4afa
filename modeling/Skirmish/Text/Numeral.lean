/-!
# Numerals

Natural numbers written with digits: `0` to `9`, and from ten on the letters of either case.
-/

namespace Skirmish.Text

/-- The value of `c` as a digit of base 36. -/
def digitValue? (c : Char) : Option Nat :=
  if '0' ≤ c ∧ c ≤ '9' then some (c.toNat - '0'.toNat)
  else if 'a' ≤ c ∧ c ≤ 'z' then some (c.toNat - 'a'.toNat + 10)
  else if 'A' ≤ c ∧ c ≤ 'Z' then some (c.toNat - 'A'.toNat + 10)
  else none

/-- The value of `c` as a digit of `base`. -/
def digitOf? (base : Nat) (c : Char) : Option Nat :=
  (digitValue? c).filter (· < base)

/-- `n` followed by the digits `cs` of `base`. -/
def digitsAfter? (base n : Nat) : List Char → Option Nat
  | [] => some n
  | c :: cs =>
    match digitOf? base c with
    | some d => digitsAfter? base (n * base + d) cs
    | none => none

/-- The number with the digits `cs` of `base`; `none` if one is no such digit or there is none. -/
def numeral? (base : Nat) (cs : List Char) : Option Nat :=
  if cs = [] then none else digitsAfter? base 0 cs

end Skirmish.Text
