/-!
# UTF-8

Text travels as UTF-8. Writing needs no thought (`encode`). Reading runs a machine over the bytes
that either holds no character or one that has begun (`Begun`), and refuses the first byte that
cannot go on:

* `Flaw.invalid count start`: the `count` bytes from `start` on begin no character, though all but
  the last byte read did;
* `Flaw.incomplete start`: the text ends inside a character.

The byte that follows a leading byte is the only one with a narrower range than `80–BF`; that
range keeps out overlong forms, surrogates and numbers above `10FFFF`.
-/

namespace Skirmish.Text.Utf8

/-- The UTF-8 bytes of `cs`. -/
def encode (cs : List Char) : List UInt8 :=
  cs.flatMap String.utf8EncodeChar

/-- The number of UTF-8 bytes of `s`. -/
def size (s : String) : Nat :=
  (encode s.toList).length

/-- Where bytes stop being UTF-8. Offsets and counts are in bytes. -/
inductive Flaw
  | invalid (count start : Nat)
  | incomplete (start : Nat)
deriving DecidableEq, Repr

/-- The text of a flaw in a `Malformed` error. -/
def Flaw.message : Flaw → String
  | .invalid count start =>
    "invalid utf-8 sequence of " ++ toString count ++ " bytes from index " ++ toString start
  | .incomplete start => "incomplete utf-8 byte sequence from index " ++ toString start

/-- A character of `seen` bytes so far, `more + 1` bytes before its end. -/
structure Begun where
  /-- Where its first byte stands. -/
  start : Nat
  /-- How many of its bytes are read. -/
  seen : Nat
  /-- How many of its bytes are missing after the next one. -/
  more : Nat
  /-- The least value of the next byte. -/
  low : UInt8
  /-- The greatest value of the next byte. -/
  high : UInt8
  /-- The bits read so far, as a number. -/
  code : Nat
deriving DecidableEq, Repr

/-- What `lead` makes of a byte. -/
inductive Lead
  /-- The byte is a character of its own. -/
  | single
  /-- The byte begins a longer character. -/
  | begins (b : Begun)
  /-- No character begins with this byte. -/
  | stray
deriving DecidableEq, Repr

/-- The byte at offset `start` as the first one of a character. -/
def lead (start : Nat) (b : UInt8) : Lead :=
  let n := b.toNat
  if n < 0x80 then .single
  else if n < 0xC2 then .stray
  else if n < 0xE0 then .begins ⟨start, 1, 0, 0x80, 0xBF, n - 0xC0⟩
  else if n = 0xE0 then .begins ⟨start, 1, 1, 0xA0, 0xBF, 0⟩
  else if n = 0xED then .begins ⟨start, 1, 1, 0x80, 0x9F, 0xD⟩
  else if n < 0xF0 then .begins ⟨start, 1, 1, 0x80, 0xBF, n - 0xE0⟩
  else if n = 0xF0 then .begins ⟨start, 1, 2, 0x90, 0xBF, 0⟩
  else if n < 0xF4 then .begins ⟨start, 1, 2, 0x80, 0xBF, n - 0xF0⟩
  else if n = 0xF4 then .begins ⟨start, 1, 2, 0x80, 0x8F, 4⟩
  else .stray

/-- The characters of the bytes from offset `index` on, where `begun` is the one that has begun
before. -/
def decodeFrom (index : Nat) (begun : Option Begun) : List UInt8 → Except Flaw (List Char)
  | [] =>
    match begun with
    | none => .ok []
    | some b => .error (.incomplete b.start)
  | byte :: rest =>
    match begun with
    | none =>
      match lead index byte with
      | .single => (decodeFrom (index + 1) none rest).map (Char.ofNat byte.toNat :: ·)
      | .begins b => decodeFrom (index + 1) (some b) rest
      | .stray => .error (.invalid 1 index)
    | some b =>
      if byte < b.low ∨ b.high < byte then .error (.invalid b.seen b.start)
      else
        let code := b.code * 64 + (byte.toNat - 0x80)
        if b.more = 0 then (decodeFrom (index + 1) none rest).map (Char.ofNat code :: ·)
        else
          decodeFrom (index + 1) (some ⟨b.start, b.seen + 1, b.more - 1, 0x80, 0xBF, code⟩) rest

/-- The characters of UTF-8 bytes, or the first flaw. -/
def decode (bytes : List UInt8) : Except Flaw (List Char) :=
  decodeFrom 0 none bytes

end Skirmish.Text.Utf8
