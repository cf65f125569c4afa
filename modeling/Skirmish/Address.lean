import Skirmish.Text.Numeral
import Skirmish.Text.Split

/-!
# Addresses

A host is written as one of the following:

* up to four numbers with dots between them, each in decimal, in octal after a `0` or in
  hexadecimal after a `0x`. All but the last are bytes, and the last fills the bytes that are left,
  so that `127.0.0.1`, `127.1` and `0x7F000001` are the same address;
* eight groups of up to four hexadecimal digits with colons between them. Two colons in a row,
  once, stand for the zero groups that are missing, and the last two groups may be written as four
  decimal bytes with dots. After a percent sign an interface may be told;
* the same in brackets;
* the name `localhost`.

No other name is a host.

Result: `fill?_lt`, numbers with dots never come to more than four bytes hold.
-/

namespace Skirmish

/-- The address of a machine. -/
inductive Address
  /-- One of four bytes. -/
  | v4 (bits : UInt32)
  /-- One of eight groups of two bytes. -/
  | v6 (groups : Vector UInt16 8)
deriving DecidableEq, Repr

namespace Address

/-! ## Numbers with dots -/

/-- A number in base 16 after `0x` or `0X`, in base 8 after `0`, and in base 10 otherwise. -/
def number? : List Char → Option Nat
  | '0' :: 'x' :: cs => Text.numeral? 16 cs
  | '0' :: 'X' :: cs => Text.numeral? 16 cs
  | '0' :: cs => Text.numeral? 8 ('0' :: cs)
  | cs => Text.numeral? 10 cs

/-- The value of dotted numbers below `room`, a power of 256: all but the last are bytes, and the
last one fills what is left. -/
def fill? (room : Nat) : List Nat → Option Nat
  | [] => none
  | [last] => if last < room then some last else none
  | byte :: rest =>
    if byte < 256 ∧ 256 < room then
      (fill? (room / 256) rest).map (byte * (room / 256) + ·)
    else none

/-- The result of `fill?` is below its `room`, so `ofNumbers?` loses nothing in 32 bits. -/
theorem fill?_lt {room n : Nat} {numbers : List Nat} (h : fill? room numbers = some n) :
    n < room := by
  induction numbers generalizing room n with
  | nil => simp [fill?] at h
  | cons byte rest ih =>
    cases rest with
    | nil =>
      simp only [fill?, Option.ite_none_right_eq_some, Option.some.injEq] at h
      omega
    | cons next rest =>
      simp only [fill?, Option.ite_none_right_eq_some, Option.map_eq_some_iff] at h
      obtain ⟨hb, m, hm, rfl⟩ := h
      have hlt := ih hm
      have hmul : byte * (room / 256) ≤ 255 * (room / 256) := Nat.mul_le_mul_right _ (by omega)
      omega

/-- One to four dotted numbers as an address of four bytes. -/
def ofNumbers? (cs : List Char) : Option Address := do
  let numbers ← (Text.splitAt '.' cs).mapM number?
  let bits ← fill? 0x100000000 numbers
  return .v4 (.ofNat bits)

/-! ## Groups with colons -/

/-- One to four hexadecimal digits. -/
def group? (cs : List Char) : Option Nat :=
  if cs.length ≤ 4 then Text.numeral? 16 cs else none

/-- A decimal number below 256 without leading zeros. -/
def byte? (cs : List Char) : Option Nat :=
  if 1 < cs.length ∧ cs.head? = some '0' then none else (Text.numeral? 10 cs).filter (· < 256)

/-- The last part of an address: one group, or four dotted bytes for two groups. -/
def lastGroups? (cs : List Char) : Option (List Nat) :=
  match (Text.splitAt '.' cs).mapM byte? with
  | some [a, b, c, d] => some [a * 256 + b, c * 256 + d]
  | _ => (group? cs).map ([·])

/-- The groups of the parts of an address up to its end. -/
def groups? : List (List Char) → Option (List Nat)
  | [] => some []
  | [last] => lastGroups? last
  | part :: rest => do return (← group? part) :: (← groups? rest)

/-- What stands between the colons; no part at all for the empty text. -/
def parts (cs : List Char) : List (List Char) :=
  if cs = [] then [] else Text.splitAt ':' cs

/-- What stands before and behind the first `::`. -/
def splitGap? : List Char → Option (List Char × List Char)
  | [] => none
  | ':' :: ':' :: rest => some ([], rest)
  | c :: rest => (splitGap? rest).map fun sides => (c :: sides.1, sides.2)

/-- The groups of an address. A `::` stands for as many zero groups as are missing to eight, at
least one. -/
def allGroups? (cs : List Char) : Option (List Nat) :=
  match splitGap? cs with
  | none => groups? (parts cs)
  | some (before, after) => do
    let front ← (parts before).mapM group?
    let back ← groups? (parts after)
    if front.length + back.length < 8 then
      return front ++ List.replicate (8 - front.length - back.length) 0 ++ back
    else none

/-- Exactly eight groups as an address. -/
def ofGroups? (cs : List Char) : Option (Vector UInt16 8) := do
  let groups ← allGroups? cs
  if h : groups.length = 8 then return ⟨(groups.map .ofNat).toArray, by simp [h]⟩
  else none

/-! ## Interfaces -/

/-- The first group is in `fe80`–`febf`, or it is `ff` with a second byte that ends in `1` or `2`.
Such an address needs an interface. -/
def isLocal (groups : Vector UInt16 8) : Bool :=
  let first := groups.toList.headD 0
  first &&& 0xFFC0 == 0xFE80 || first &&& 0xFF0F == 0xFF01 || first &&& 0xFF0F == 0xFF02

/-- `cs` is a decimal number below `2 ^ 32`. -/
def isInterfaceNumber (cs : List Char) : Bool :=
  ((Text.numeral? 10 cs).filter (· < 0x100000000)).isSome

/-- The name of the loopback interface. -/
def loopbackInterface : String := "lo"

/-- `isInterfaceNumber`, or the name `loopbackInterface` for an address that `isLocal`. -/
def isInterface (groups : Vector UInt16 8) (cs : List Char) : Bool :=
  isInterfaceNumber cs || (isLocal groups && cs == loopbackInterface.toList)

/-- `ofGroups?` of what stands before a `%`; what stands behind it has to be a scope. -/
def ofScoped? (isScope : Vector UInt16 8 → List Char → Bool) (cs : List Char) : Option Address := do
  let groups ← ofGroups? (cs.takeWhile (· ≠ '%'))
  match (cs.dropWhile (· ≠ '%')).tail? with
  | none => return .v6 groups
  | some scope => if isScope groups scope then return .v6 groups else none

/-! ## Hosts -/

/-- The address of a host: in brackets, by name, with colons or with dots. -/
def ofHost? (host : String) : Option Address :=
  match host.toList with
  | '[' :: cs =>
    if cs.getLast? = some ']' then ofScoped? (fun _ => isInterfaceNumber) cs.dropLast else none
  | cs =>
    if cs.map Char.toLower = "localhost".toList then some (.v4 0x7F000001)
    else if ':' ∈ cs then ofScoped? isInterface cs
    else ofNumbers? cs

/-- The bits of a `v4`, or of a `v6` that is mapped from one. -/
def four? : Address → Option UInt32
  | .v4 bits => some bits
  | .v6 groups =>
    if groups.toList.take 6 = [0, 0, 0, 0, 0, 0xFFFF] then
      some ((groups.toList.drop 6).foldl (fun bits group => bits * 0x10000 + group.toUInt32) 0)
    else none

/-- All bits are zero. -/
def isUnspecified : Address → Bool
  | .v4 bits => bits == 0
  | .v6 groups => groups.toList.all (· == 0)

/-- `127.0.0.1` or `::1`. -/
def isLoopback : Address → Bool
  | .v4 bits => bits == 0x7F000001
  | .v6 groups => groups.toList == [0, 0, 0, 0, 0, 0, 0, 1]

end Address

end Skirmish
