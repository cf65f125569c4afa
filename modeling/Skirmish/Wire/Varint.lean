import Skirmish.Wire.Malformed

/-!
# Unsigned integers of varying width

A number below 251 is one byte. A larger one is a byte for the width, 251 for two bytes, 252 for
four and 253 for eight, and then the number, least byte first. `write` takes the least width that
holds the number; `read` takes any.
-/

namespace Skirmish.Wire

/-- A reader takes what it needs off the front of the bytes, or fails with the first flaw. -/
abbrev Reader (α : Type) := StateT (List UInt8) (Except Malformed) α

/-- The next byte, or `endOfBytes`. -/
def readByte : Reader UInt8 := fun
  | [] => .error .endOfBytes
  | b :: rest => .ok (b, rest)

/-- `n` modulo `256 ^ width` in `width` bytes, the lowest first. -/
def littleEndian : (width n : Nat) → List UInt8
  | 0, _ => []
  | width + 1, n => UInt8.ofNat n :: littleEndian width (n / 256)

/-- The number that the next `width` bytes are, the lowest first. -/
def readLittleEndian : (width : Nat) → Reader Nat
  | 0 => pure 0
  | width + 1 => do
    let low ← readByte
    let high ← readLittleEndian width
    return low.toNat + 256 * high

namespace Varint

/-- The variable-width encoding of `n < 2 ^ 64` in 1, 3, 5 or 9 bytes. -/
def write (n : Nat) : List UInt8 :=
  if n < 251 then [UInt8.ofNat n]
  else if n < 0x10000 then 251 :: littleEndian 2 n
  else if n < 0x100000000 then 252 :: littleEndian 4 n
  else 253 :: littleEndian 8 n

/-- A number in any of the four widths, not only in the least one that holds it. `254` is
`wideInteger` and `255` is `reservedInteger`. -/
def read : Reader Nat := do
  let first ← readByte
  if first.toNat < 251 then return first.toNat
  else if first = 251 then readLittleEndian 2
  else if first = 252 then readLittleEndian 4
  else if first = 253 then readLittleEndian 8
  else if first = 254 then throw .wideInteger
  else throw .reservedInteger

end Varint

end Skirmish.Wire
