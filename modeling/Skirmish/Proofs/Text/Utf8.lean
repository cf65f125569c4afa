import Skirmish.Text.Utf8

/-!
# UTF-8 is read back

The decoder takes the bytes of a character one by one, and after the last one has read that
character and is at its start again. The ranges that a leading byte sets for the next one exclude
nothing that is written: a character of three bytes that starts with `E0` is at least `800`, one
that starts with `ED` is no surrogate, and so on.

Results:

* `lead_two`, `lead_three`, `lead_four`: the state after each leading byte;
* `decodeFrom_encodeChar`: the bytes of one character, whatever comes behind them;
* `decode_encode`: the bytes of a text decode as that text;
* `length_encode_le`, `size_eq`: how many there are.
-/

namespace Skirmish.Text.Utf8

variable {index x : Nat} {b : Begun} {rest : List UInt8}

theorem toNat_byte (small : x < 256) : (UInt8.ofNat x).toNat = x :=
  UInt8.toNat_ofNat_of_lt' small

/-- A byte within the bounds passes the check of the decoder. -/
theorem not_outside (small : x < 256) (low : b.low.toNat ≤ x) (high : x ≤ b.high.toNat) :
    ¬(UInt8.ofNat x < b.low ∨ b.high < UInt8.ofNat x) := by
  rw [UInt8.lt_iff_toNat_lt, UInt8.lt_iff_toNat_lt, toNat_byte small]
  omega

/-- The last byte of a character completes it. -/
theorem decodeFrom_last (small : x < 256) (low : b.low.toNat ≤ x) (high : x ≤ b.high.toNat)
    (last : b.more = 0) :
    decodeFrom index (some b) (UInt8.ofNat x :: rest) =
      (decodeFrom (index + 1) none rest).map (Char.ofNat (b.code * 64 + (x - 0x80)) :: ·) := by
  simp only [decodeFrom, if_neg (not_outside small low high), if_pos last, toNat_byte small]

theorem decodeFrom_more (small : x < 256) (low : b.low.toNat ≤ x) (high : x ≤ b.high.toNat)
    (more : b.more ≠ 0) :
    decodeFrom index (some b) (UInt8.ofNat x :: rest) =
      decodeFrom (index + 1)
        (some ⟨b.start, b.seen + 1, b.more - 1, 0x80, 0xBF, b.code * 64 + (x - 0x80)⟩) rest := by
  simp only [decodeFrom, if_neg (not_outside small low high), if_neg more, toNat_byte small]

theorem decodeFrom_begins {first : UInt8} (begins : lead index first = .begins b) :
    decodeFrom index none (first :: rest) = decodeFrom (index + 1) (some b) rest := by
  simp only [decodeFrom, begins]

/-! ## Leading bytes -/

theorem lead_two (start : Nat) (low : 0xC2 ≤ x) (high : x < 0xE0) :
    lead start (UInt8.ofNat x) = .begins ⟨start, 1, 0, 0x80, 0xBF, x - 0xC0⟩ := by
  simp only [lead, toNat_byte (x := x) (by omega)]
  rw [if_neg (by omega), if_neg (by omega), if_pos (by omega)]

/-- Behind `E0` the next byte is at least `A0`, and behind `ED` at most `9F`. -/
theorem lead_three (start : Nat) (low : 0xE0 ≤ x) (high : x < 0xF0) :
    ∃ least most : UInt8,
      lead start (UInt8.ofNat x) = .begins ⟨start, 1, 1, least, most, x - 0xE0⟩ ∧
      least.toNat = (if x = 0xE0 then 0xA0 else 0x80) ∧
      most.toNat = (if x = 0xED then 0x9F else 0xBF) := by
  simp only [lead, toNat_byte (x := x) (by omega)]
  rw [if_neg (by omega), if_neg (by omega), if_neg (by omega)]
  by_cases e0 : x = 0xE0
  · subst e0
    exact ⟨0xA0, 0xBF, rfl, rfl, rfl⟩
  · by_cases ed : x = 0xED
    · subst ed
      exact ⟨0x80, 0x9F, rfl, rfl, rfl⟩
    · refine ⟨0x80, 0xBF, ?_, ?_, ?_⟩
      · rw [if_neg e0, if_neg ed, if_pos high]
      · rw [if_neg e0]; rfl
      · rw [if_neg ed]; rfl

/-- Behind `F0` the next byte is at least `90`, and behind `F4` at most `8F`. -/
theorem lead_four (start : Nat) (low : 0xF0 ≤ x) (high : x ≤ 0xF4) :
    ∃ least most : UInt8,
      lead start (UInt8.ofNat x) = .begins ⟨start, 1, 2, least, most, x - 0xF0⟩ ∧
      least.toNat = (if x = 0xF0 then 0x90 else 0x80) ∧
      most.toNat = (if x = 0xF4 then 0x8F else 0xBF) := by
  simp only [lead, toNat_byte (x := x) (by omega)]
  rw [if_neg (by omega), if_neg (by omega), if_neg (by omega), if_neg (by omega),
    if_neg (by omega), if_neg (by omega)]
  by_cases f0 : x = 0xF0
  · subst f0
    exact ⟨0x90, 0xBF, rfl, rfl, rfl⟩
  · by_cases f4 : x = 0xF4
    · subst f4
      exact ⟨0x80, 0x8F, rfl, rfl, rfl⟩
    · refine ⟨0x80, 0xBF, ?_, ?_, ?_⟩
      · rw [if_neg f0, if_pos (by omega)]
      · rw [if_neg f0]; rfl
      · rw [if_neg f4]; rfl

/-! ## Characters and texts -/

/-- The bytes of a character decode as that character, whatever comes behind them. -/
theorem decodeFrom_encodeChar (index : Nat) (c : Char) (rest : List UInt8) :
    decodeFrom index none (String.utf8EncodeChar c ++ rest) =
      (decodeFrom (index + (String.utf8EncodeChar c).length) none rest).map (c :: ·) := by
  have valid : c.val.toNat < 0xD800 ∨ 0xDFFF < c.val.toNat ∧ c.val.toNat < 0x110000 := c.valid
  have back : Char.ofNat c.val.toNat = c := Char.ofNat_toNat c
  unfold String.utf8EncodeChar
  generalize c.val.toNat = v at valid back
  subst back
  -- the cases are the widths of a character, from one byte to four
  simp only
  split
  · have single : lead index (UInt8.ofNat v) = .single := by
      simp only [lead, toNat_byte (x := v) (by omega)]
      rw [if_pos (by omega)]
    simp only [List.cons_append, List.nil_append, decodeFrom, single, List.length_singleton,
      toNat_byte (x := v) (by omega)]
  split
  · have code : (v / 64 % 32 + 192 - 0xC0) * 64 + (v % 64 + 128 - 0x80) = v := by omega
    rw [List.cons_append, decodeFrom_begins (lead_two index (by omega) (by omega)),
      List.cons_append,
      decodeFrom_last (by omega) (by show 0x80 ≤ _; omega) (by show _ ≤ 0xBF; omega) rfl, code]
    rfl
  split
  · have code : ((v / 4096 % 16 + 224 - 0xE0) * 64 + (v / 64 % 64 + 128 - 0x80)) * 64 +
        (v % 64 + 128 - 0x80) = v := by omega
    obtain ⟨least, most, begins, low, high⟩ :=
      lead_three index (x := v / 4096 % 16 + 224) (by omega) (by omega)
    rw [List.cons_append, decodeFrom_begins begins, List.cons_append,
      decodeFrom_more (by omega) (by show least.toNat ≤ _; rw [low]; split <;> omega)
        (by show _ ≤ most.toNat; rw [high]; split <;> omega) Nat.one_ne_zero, List.cons_append,
      decodeFrom_last (by omega) (by show 0x80 ≤ _; omega) (by show _ ≤ 0xBF; omega) rfl, code]
    rfl
  · have code : (((v / 262144 % 8 + 240 - 0xF0) * 64 + (v / 4096 % 64 + 128 - 0x80)) * 64 +
        (v / 64 % 64 + 128 - 0x80)) * 64 + (v % 64 + 128 - 0x80) = v := by omega
    obtain ⟨least, most, begins, low, high⟩ :=
      lead_four index (x := v / 262144 % 8 + 240) (by omega) (by omega)
    rw [List.cons_append, decodeFrom_begins begins, List.cons_append,
      decodeFrom_more (by omega) (by show least.toNat ≤ _; rw [low]; split <;> omega)
        (by show _ ≤ most.toNat; rw [high]; split <;> omega) (Nat.succ_ne_zero 1), List.cons_append,
      decodeFrom_more (by omega) (by show 0x80 ≤ _; omega) (by show _ ≤ 0xBF; omega)
        Nat.one_ne_zero, List.cons_append,
      decodeFrom_last (by omega) (by show 0x80 ≤ _; omega) (by show _ ≤ 0xBF; omega) rfl, code]
    rfl

theorem decode_encode (cs : List Char) : decode (encode cs) = .ok cs := by
  suffices ∀ index, decodeFrom index none (encode cs) = .ok cs from this 0
  induction cs with
  | nil => exact fun _ => rfl
  | cons c rest ih =>
    intro index
    rw [encode, List.flatMap_cons, ← encode, decodeFrom_encodeChar, ih]
    rfl

theorem length_encode_le (cs : List Char) : (encode cs).length ≤ 4 * cs.length := by
  induction cs with
  | nil => exact Nat.le_refl 0
  | cons c rest ih =>
    have first := c.utf8Size_le_four
    rw [encode, List.flatMap_cons, List.length_append, String.length_utf8EncodeChar,
      List.length_cons]
    rw [encode] at ih
    omega

theorem size_eq (s : String) : size s = s.utf8ByteSize := by
  rw [← String.size_toByteArray, ← String.ofList_toList (s := s), String.toByteArray_ofList, size,
    encode, String.toList_ofList]
  simp [List.utf8Encode]

end Skirmish.Text.Utf8
