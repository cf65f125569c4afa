import Skirmish.Wire.Varint

/-!
# The parts of a packet

How each kind of field is written, and read back: flags, texts, numbers of health, lists, optional
parts and the tag that tells the variants of a type apart. A field says nothing of its own type;
reader and writer have to agree on what comes next.
-/

namespace Skirmish.Wire

/-! ## Flags -/

/-- One byte, `1` for `true`. -/
def writeFlag (b : Bool) : List UInt8 :=
  [if b then 1 else 0]

/-- One byte that is `0` or `1`, or `badFlag`. -/
def readFlag : Reader Bool := do
  let b ← readByte
  if b = 0 then return false
  else if b = 1 then return true
  else throw (.badFlag b)

/-! ## Texts -/

/-- The next `n` bytes, or `shortText`. -/
def readBytes (n : Nat) : Reader (List UInt8) := fun bytes =>
  if n ≤ bytes.length then .ok (bytes.take n, bytes.drop n) else .error .shortText

/-- `Varint.write` of the number of UTF-8 bytes, and then these. -/
def writeText (s : String) : List UInt8 :=
  let bytes := Text.Utf8.encode s.toList
  Varint.write bytes.length ++ bytes

/-- A number and as many bytes, which have to be UTF-8; `badText` otherwise. -/
def readText : Reader String := do
  let n ← Varint.read
  let bytes ← readBytes n
  match Text.Utf8.decode bytes with
  | .ok cs => return String.ofList cs
  | .error flaw => throw (.badText flaw)

/-! ## Health -/

/-- `2 * n` for `n ≥ 0`, and `-2 * n - 1` for `n < 0`. -/
def zigZag : Int → Nat
  | .ofNat n => 2 * n
  | .negSucc n => 2 * n + 1

/-- The inverse of `zigZag`. -/
def unZigZag (m : Nat) : Int :=
  if m % 2 = 0 then .ofNat (m / 2) else .negSucc (m / 2)

@[simp] theorem unZigZag_zigZag (n : Int) : unZigZag (zigZag n) = n := by
  cases n with
  | ofNat n => simp [zigZag, unZigZag]
  | negSucc n =>
    have odd : (2 * n + 1) % 2 ≠ 0 := by omega
    have half : (2 * n + 1) / 2 = n := by omega
    simp [zigZag, unZigZag, half]

/-- `Varint.write` of the `zigZag` of the health. -/
def writeHealth (h : Int32) : List UInt8 :=
  Varint.write (zigZag h.toInt)

/-- The `unZigZag` of a number; `wideHealth` if it is no 32-bit integer. -/
def readHealth : Reader Int32 := do
  let m ← Varint.read
  let n := unZigZag m
  if -0x80000000 ≤ n ∧ n < 0x80000000 then return Int32.ofInt n
  else throw (.wideHealth n)

/-! ## Lists and optional parts -/

/-- `Varint.write` of the number of members, and then each member. -/
def writeList {α : Type} (write : α → List UInt8) (xs : List α) : List UInt8 :=
  Varint.write xs.length ++ xs.flatMap write

/-- `n` times `read`. -/
def readMany {α : Type} (read : Reader α) : (n : Nat) → Reader (List α)
  | 0 => return []
  | n + 1 => do
    let x ← read
    let xs ← readMany read n
    return x :: xs

/-- A number and as many members. -/
def readList {α : Type} (read : Reader α) : Reader (List α) := do
  let n ← Varint.read
  readMany read n

/-- The byte `0` for `none`; `1` and the part for `some`. -/
def writeOption {α : Type} (write : α → List UInt8) : Option α → List UInt8
  | none => [0]
  | some x => 1 :: write x

/-- One byte that is `0`, or `1` with the part behind it; `badTag` otherwise. -/
def readOption {α : Type} (read : Reader α) : Reader (Option α) := do
  let b ← readByte
  if b = 0 then return none
  else if b = 1 then
    let x ← read
    return some x
  else throw (.badTag b)

/-! ## Variants -/

/-- The number of a variant. It is `wideVariant` above 32 bits and `unknownVariant` from `count` on.
-/
def readTag (count : Nat) : Reader (Fin count) := do
  let n ← Varint.read
  if 0x100000000 ≤ n then throw (.wideVariant n)
  else if h : n < count then return ⟨n, h⟩
  else throw (.unknownVariant n count)

end Skirmish.Wire
