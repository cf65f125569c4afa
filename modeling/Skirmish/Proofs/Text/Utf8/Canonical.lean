import Skirmish.Proofs.Text.Utf8

/-!
# Nothing but UTF-8 is read

The decoder accepts only what some text encodes to. From one character to the next: a leading byte
sets a range for the next byte, and whatever passes these ranges is the code of a character that has
just these bytes.

Results:

* `encodeChar_one`, `encodeChar_two`, `encodeChar_three`, `encodeChar_four`: bytes that pass are
  those of the character they decode as;
* `exists_char_of_decodeFrom`: accepted bytes start with those of a character;
* `decode_eq_ok_iff`: bytes decode as a text iff they are its encoding.
-/

namespace Skirmish.Text.Utf8

variable {index x y z w : Nat} {b : Begun} {bytes : List UInt8} {cs : List Char}

/-! ## Bytes of a character -/

theorem val_ofNat (valid : x.isValidChar) : (Char.ofNat x).val.toNat = x := by
  rw [Char.ofNat, dif_pos valid]
  rfl

theorem encodeChar_one (small : x < 0x80) :
    String.utf8EncodeChar (Char.ofNat x) = [UInt8.ofNat x] := by
  have value := val_ofNat (x := x) (.inl (by omega))
  simp only [String.utf8EncodeChar, value]
  rw [if_pos (by omega)]

theorem encodeChar_two (low : 0xC2 ≤ x) (high : x < 0xE0) (ylow : 0x80 ≤ y) (yhigh : y ≤ 0xBF) :
    String.utf8EncodeChar (Char.ofNat ((x - 0xC0) * 64 + (y - 0x80))) =
      [UInt8.ofNat x, UInt8.ofNat y] := by
  have value := val_ofNat (x := (x - 0xC0) * 64 + (y - 0x80)) (.inl (by omega))
  have first : ((x - 0xC0) * 64 + (y - 0x80)) / 64 % 32 + 192 = x := by omega
  have second : ((x - 0xC0) * 64 + (y - 0x80)) % 64 + 128 = y := by omega
  simp only [String.utf8EncodeChar, value]
  rw [if_neg (by omega), if_pos (by omega), first, second]

/-- Three bytes that pass are those of one character: no surrogate, and nothing below `800`. -/
theorem encodeChar_three (low : 0xE0 ≤ x) (high : x < 0xF0)
    (ylow : (if x = 0xE0 then 0xA0 else 0x80) ≤ y) (yhigh : y ≤ if x = 0xED then 0x9F else 0xBF)
    (zlow : 0x80 ≤ z) (zhigh : z ≤ 0xBF) :
    String.utf8EncodeChar (Char.ofNat (((x - 0xE0) * 64 + (y - 0x80)) * 64 + (z - 0x80))) =
      [UInt8.ofNat x, UInt8.ofNat y, UInt8.ofNat z] := by
  have valid : (((x - 0xE0) * 64 + (y - 0x80)) * 64 + (z - 0x80)).isValidChar := by
    unfold Nat.isValidChar
    split at ylow <;> split at yhigh <;> omega
  have wide : 0x800 ≤ ((x - 0xE0) * 64 + (y - 0x80)) * 64 + (z - 0x80) := by
    split at ylow <;> omega
  have small : y ≤ 0xBF := by
    split at yhigh <;> omega
  have large : 0x80 ≤ y := by
    split at ylow <;> omega
  simp only [String.utf8EncodeChar, val_ofNat valid]
  generalize value : ((x - 0xE0) * 64 + (y - 0x80)) * 64 + (z - 0x80) = v at wide valid
  have first : v / 4096 % 16 + 224 = x := by omega
  have second : v / 64 % 64 + 128 = y := by omega
  have third : v % 64 + 128 = z := by omega
  rw [if_neg (by omega), if_neg (by omega), if_pos (by omega), first, second, third]

/-- Four bytes that pass are those of one character: nothing above `10FFFF`, and nothing below
`10000`. -/
theorem encodeChar_four (low : 0xF0 ≤ x) (high : x ≤ 0xF4)
    (ylow : (if x = 0xF0 then 0x90 else 0x80) ≤ y) (yhigh : y ≤ if x = 0xF4 then 0x8F else 0xBF)
    (zlow : 0x80 ≤ z) (zhigh : z ≤ 0xBF) (wlow : 0x80 ≤ w) (whigh : w ≤ 0xBF) :
    String.utf8EncodeChar
        (Char.ofNat ((((x - 0xF0) * 64 + (y - 0x80)) * 64 + (z - 0x80)) * 64 + (w - 0x80))) =
      [UInt8.ofNat x, UInt8.ofNat y, UInt8.ofNat z, UInt8.ofNat w] := by
  have wide :
      0x10000 ≤ (((x - 0xF0) * 64 + (y - 0x80)) * 64 + (z - 0x80)) * 64 + (w - 0x80) := by
    split at ylow <;> omega
  have narrow :
      (((x - 0xF0) * 64 + (y - 0x80)) * 64 + (z - 0x80)) * 64 + (w - 0x80) < 0x110000 := by
    split at yhigh <;> omega
  have small : y ≤ 0xBF := by
    split at yhigh <;> omega
  have large : 0x80 ≤ y := by
    split at ylow <;> omega
  have valid :
      ((((x - 0xF0) * 64 + (y - 0x80)) * 64 + (z - 0x80)) * 64 + (w - 0x80)).isValidChar :=
    .inr ⟨by omega, narrow⟩
  simp only [String.utf8EncodeChar, val_ofNat valid]
  generalize value :
    (((x - 0xF0) * 64 + (y - 0x80)) * 64 + (z - 0x80)) * 64 + (w - 0x80) = v at wide narrow valid
  have first : v / 262144 % 8 + 240 = x := by omega
  have second : v / 4096 % 64 + 128 = y := by omega
  have third : v / 64 % 64 + 128 = z := by omega
  have fourth : v % 64 + 128 = w := by omega
  rw [if_neg (by omega), if_neg (by omega), if_neg (by omega), first, second, third, fourth]

/-! ## Leading bytes -/

theorem lead_one (start : Nat) (small : x < 0x80) : lead start (UInt8.ofNat x) = .single := by
  simp only [lead, toNat_byte (x := x) (by omega)]
  rw [if_pos small]

/-- No character starts with a byte from `80` to `C1` or above `F4`. -/
theorem lead_stray (start : Nat) (byte : x < 256) (stray : 0x80 ≤ x ∧ x < 0xC2 ∨ 0xF4 < x) :
    lead start (UInt8.ofNat x) = .stray := by
  simp only [lead, toNat_byte byte]
  rcases stray with ⟨low, high⟩ | high
  · rw [if_neg (by omega), if_pos high]
  · repeat rw [if_neg (by omega)]

/-! ## From byte to byte -/

theorem exists_of_map_eq_ok {c : Char} {read : Except Flaw (List Char)}
    (ok : read.map (c :: ·) = .ok cs) : ∃ later, cs = c :: later ∧ read = .ok later := by
  cases read with
  | error flaw => cases ok
  | ok later =>
    cases ok
    exact ⟨later, rfl, rfl⟩

/-- Within a character the next byte lies in the range that is set for it. -/
theorem exists_byte_of_decodeFrom (ok : decodeFrom index (some b) bytes = .ok cs) :
    ∃ x rest, bytes = UInt8.ofNat x :: rest ∧ x < 256 ∧ b.low.toNat ≤ x ∧ x ≤ b.high.toNat := by
  cases bytes with
  | nil => cases ok
  | cons byte rest =>
    simp only [decodeFrom] at ok
    split at ok
    · cases ok
    · rename_i inside
      rw [not_or, UInt8.lt_iff_toNat_lt, UInt8.lt_iff_toNat_lt] at inside
      exact ⟨byte.toNat, rest, by rw [UInt8.ofNat_toNat], byte.toNat_lt, by omega, by omega⟩

theorem exists_last_of_decodeFrom (ok : decodeFrom index (some b) bytes = .ok cs)
    (last : b.more = 0) :
    ∃ x rest later, bytes = UInt8.ofNat x :: rest ∧ b.low.toNat ≤ x ∧ x ≤ b.high.toNat ∧
      cs = Char.ofNat (b.code * 64 + (x - 0x80)) :: later ∧
      decodeFrom (index + 1) none rest = .ok later := by
  obtain ⟨x, rest, rfl, byte, low, high⟩ := exists_byte_of_decodeFrom ok
  rw [decodeFrom_last byte low high last] at ok
  obtain ⟨later, rfl, tail⟩ := exists_of_map_eq_ok ok
  exact ⟨x, rest, later, rfl, low, high, rfl, tail⟩

theorem exists_more_of_decodeFrom (ok : decodeFrom index (some b) bytes = .ok cs)
    (more : b.more ≠ 0) :
    ∃ x rest, bytes = UInt8.ofNat x :: rest ∧ b.low.toNat ≤ x ∧ x ≤ b.high.toNat ∧
      decodeFrom (index + 1)
        (some ⟨b.start, b.seen + 1, b.more - 1, 0x80, 0xBF, b.code * 64 + (x - 0x80)⟩) rest =
        .ok cs := by
  obtain ⟨x, rest, rfl, byte, low, high⟩ := exists_byte_of_decodeFrom ok
  rw [decodeFrom_more byte low high more] at ok
  exact ⟨x, rest, rfl, low, high, ok⟩

/-! ## From character to character -/

/-- Accepted bytes are empty, or start with those of a character. -/
theorem exists_char_of_decodeFrom (ok : decodeFrom index none bytes = .ok cs) :
    bytes = [] ∧ cs = [] ∨
      ∃ c later rest next, cs = c :: later ∧ bytes = String.utf8EncodeChar c ++ rest ∧
        decodeFrom next none rest = .ok later := by
  cases bytes with
  | nil =>
    cases ok
    exact .inl ⟨rfl, rfl⟩
  | cons first rest =>
    obtain ⟨x, rfl, byte⟩ : ∃ x, first = UInt8.ofNat x ∧ x < 256 :=
      ⟨first.toNat, by rw [UInt8.ofNat_toNat], first.toNat_lt⟩
    refine .inr ?_
    -- the cases are what the leading byte says
    by_cases one : x < 0x80
    · simp only [decodeFrom, lead_one index one, toNat_byte byte] at ok
      obtain ⟨later, rfl, tail⟩ := exists_of_map_eq_ok ok
      exact ⟨_, later, rest, _, rfl, by rw [encodeChar_one one]; rfl, tail⟩
    by_cases stray : x < 0xC2 ∨ 0xF4 < x
    · simp only [decodeFrom, lead_stray index byte (by omega)] at ok
      cases ok
    by_cases two : x < 0xE0
    · rw [decodeFrom_begins (lead_two index (by omega) two)] at ok
      obtain ⟨y, rest, later, rfl, ylow, yhigh, rfl, tail⟩ := exists_last_of_decodeFrom ok rfl
      exact ⟨_, later, rest, _, rfl, by rw [encodeChar_two (by omega) two ylow yhigh]; rfl, tail⟩
    by_cases three : x < 0xF0
    · obtain ⟨least, most, begins, low, high⟩ := lead_three index (x := x) (by omega) three
      rw [decodeFrom_begins begins] at ok
      obtain ⟨y, rest, rfl, ylow, yhigh, onward⟩ := exists_more_of_decodeFrom ok Nat.one_ne_zero
      obtain ⟨z, rest, later, rfl, zlow, zhigh, rfl, tail⟩ := exists_last_of_decodeFrom onward rfl
      have written := encodeChar_three (by omega) three (low ▸ ylow) (high ▸ yhigh) zlow zhigh
      exact ⟨_, later, rest, _, rfl, by rw [written]; rfl, tail⟩
    · obtain ⟨least, most, begins, low, high⟩ :=
        lead_four index (x := x) (by omega) (by omega)
      rw [decodeFrom_begins begins] at ok
      obtain ⟨y, rest, rfl, ylow, yhigh, second⟩ :=
        exists_more_of_decodeFrom ok (Nat.succ_ne_zero 1)
      obtain ⟨z, rest, rfl, zlow, zhigh, third⟩ :=
        exists_more_of_decodeFrom second Nat.one_ne_zero
      obtain ⟨w, rest, later, rfl, wlow, whigh, rfl, tail⟩ := exists_last_of_decodeFrom third rfl
      have written := encodeChar_four (by omega) (by omega) (low ▸ ylow) (high ▸ yhigh) zlow zhigh
        wlow whigh
      exact ⟨_, later, rest, _, rfl, by rw [written]; rfl, tail⟩

theorem eq_encode_of_decodeFrom (ok : decodeFrom index none bytes = .ok cs) :
    bytes = encode cs := by
  induction cs generalizing index bytes with
  | nil =>
    rcases exists_char_of_decodeFrom ok with ⟨rfl, -⟩ | ⟨c, later, rest, next, eq, -⟩
    · rfl
    · cases eq
  | cons c later ih =>
    rcases exists_char_of_decodeFrom ok with ⟨-, eq⟩ | ⟨c, later, rest, next, eq, rfl, tail⟩
    · cases eq
    · cases eq
      rw [encode, List.flatMap_cons, ← encode, ← ih tail]

/-- Bytes decode as `cs` iff they are the encoding of `cs`. -/
theorem decode_eq_ok_iff : decode bytes = .ok cs ↔ bytes = encode cs := by
  constructor
  · exact eq_encode_of_decodeFrom
  · rintro rfl
    exact decode_encode cs

end Skirmish.Text.Utf8
