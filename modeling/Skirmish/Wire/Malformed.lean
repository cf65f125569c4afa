import Skirmish.Text.Utf8

/-!
# Why bytes are no packet

The errors of `decode`. Bytes are read from left to right up to the first error; each kind of error
is a case of `Malformed`, and `Malformed.message` is its text.
-/

namespace Skirmish.Wire

/-- Why `Wire.decode` fails. -/
inductive Malformed
  /-- The bytes end where an integer, a flag or a tag should stand, or inside one. -/
  | endOfBytes
  /-- Fewer bytes are left than a text claims to have. -/
  | shortText
  /-- An integer announces more than 64 bits. -/
  | wideInteger
  /-- An integer begins with the one byte that has no meaning. -/
  | reservedInteger
  /-- The number of a variant does not fit 32 bits. -/
  | wideVariant (n : Nat)
  /-- A health does not fit 32 bits. -/
  | wideHealth (n : Int)
  /-- There are only `count` variants. -/
  | unknownVariant (index count : Nat)
  /-- A flag is neither 0 nor 1. -/
  | badFlag (byte : UInt8)
  /-- The tag of an optional part is neither 0 nor 1. -/
  | badTag (byte : UInt8)
  /-- A text is not UTF-8. -/
  | badText (flaw : Text.Utf8.Flaw)
  /-- Bytes are left after the packet. -/
  | leftover
deriving DecidableEq, Repr

/-- The text of the decoder for a flaw. -/
def Malformed.reason : Malformed → String
  | .endOfBytes => "io error: unexpected end of file"
  | .shortText => "io error: "
  | .wideInteger =>
    "Invalid value (u128 range): you may have a version or configuration disagreement?"
  | .reservedInteger =>
    "\nByte 255 is treated as an extension point; it should not be encoding anything.\n" ++
      "Do you have a mismatched bincode version or configuration?\n"
  | .wideVariant n =>
    "Invalid u32 " ++ toString n ++ ": you may have a version disagreement?"
  | .wideHealth n =>
    "Invalid i32 " ++ toString n ++ ": you may have a version disagreement?"
  | .unknownVariant index count =>
    "invalid value: integer `" ++ toString index ++ "`, expected variant index 0 <= i < " ++
      toString count
  | .badFlag byte =>
    "invalid u8 while decoding bool, expected 0 or 1, found " ++ toString byte.toNat
  | .badTag byte => "tag for enum is not valid, found " ++ toString byte.toNat
  | .badText flaw => "string is not valid utf8: " ++ flaw.message
  | .leftover => "Slice had bytes remaining after deserialization"

/-- The text of a `Malformed` error of the protocol. -/
def Malformed.message (m : Malformed) : String :=
  "malformed packet: " ++ m.reason

end Skirmish.Wire
