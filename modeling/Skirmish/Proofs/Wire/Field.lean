import Skirmish.Proofs.Text.Utf8
import Skirmish.Wire.Field
import Skirmish.Wire.Varint.Lemmas

/-!
# Fields are read back

For every kind of field the reader takes just the bytes that the writer has written, whatever comes
behind them (`Reads`), so fields in a row compose by `Reads.bind`. `ReadsBack` states this for a
writer, for words of fewer than `2 ^ 64` bytes, so that every count fits.

Results:

* `Reads.bind`, `Reads.last`: fields in a row;
* `readsBack_text`, `readsBack_health`, `readsBack_list`, `readsBack_option`: the kinds of fields;
* `reads_tag`: the tag of a variant.
-/

namespace Skirmish.Wire

variable {α β : Type}

/-- `read` takes `bytes` off the front of any others, for `x`. -/
def Reads (read : Reader α) (bytes : List UInt8) (x : α) : Prop :=
  ∀ rest, read (bytes ++ rest) = .ok (x, rest)

/-- `Reads` of what `write` gives, below `2 ^ 64` bytes. -/
def ReadsBack (read : Reader α) (write : α → List UInt8) : Prop :=
  ∀ x, (write x).length < 0x10000000000000000 → Reads read (write x) x

/-! ## One after the other -/

theorem Reads.bind {read : Reader α} {next : α → Reader β} {bytes more : List UInt8} {x : α} {y : β}
    (first : Reads read bytes x) (then_ : Reads (next x) more y) :
    Reads (read >>= next) (bytes ++ more) y := by
  intro rest
  rw [List.append_assoc]
  show (read (bytes ++ (more ++ rest)) >>= fun (x, rest) => next x rest) = _
  rw [first]
  exact then_ rest

/-- A last field, whose value is only wrapped. -/
theorem Reads.last {read : Reader α} {next : α → Reader β} {bytes : List UInt8} {x : α} {y : β}
    (field : Reads read bytes x) (value : next x = pure y) : Reads (read >>= next) bytes y := by
  intro rest
  show (read (bytes ++ rest) >>= fun (x, rest) => next x rest) = _
  rw [field]
  show next x rest = _
  rw [value]
  rfl

/-! ## Kinds of fields -/

theorem reads_byte (b : UInt8) : Reads readByte [b] b :=
  fun _ => rfl

theorem reads_varint {n : Nat} (h : n < 0x10000000000000000) :
    Reads Varint.read (Varint.write n) n :=
  Varint.read_write h

theorem reads_tag {count n : Nat} (known : n < count) (few : count ≤ 0x100000000) :
    Reads (readTag count) (Varint.write n) ⟨n, known⟩ := by
  refine (reads_varint (by omega)).last ?_
  rw [if_neg (by omega), dif_pos known]

theorem readsBack_flag : ReadsBack readFlag writeFlag := by
  intro b _
  refine (reads_byte _).last ?_
  cases b <;> rfl

theorem reads_bytes (bytes : List UInt8) : Reads (readBytes bytes.length) bytes bytes := by
  intro rest
  simp [readBytes]

theorem readsBack_text : ReadsBack readText writeText := by
  intro s short
  rw [writeText, List.length_append] at short
  refine (reads_varint (by omega)).bind ((reads_bytes _).last ?_)
  rw [Text.Utf8.decode_encode]
  simp

/-- `zigZag` of 32 bits has 32 bits. -/
theorem zigZag_lt {n : Int} (low : -0x80000000 ≤ n) (high : n < 0x80000000) :
    zigZag n < 0x100000000 := by
  cases n with
  | ofNat n =>
    have small : (n : Int) < 0x80000000 := high
    rw [zigZag]
    omega
  | negSucc n =>
    rw [zigZag]
    omega

theorem readsBack_health : ReadsBack readHealth writeHealth := by
  intro h _
  have low := h.le_toInt
  have high := h.toInt_lt
  have folded := zigZag_lt (by omega) (by omega : h.toInt < 0x80000000)
  refine (reads_varint (by omega)).last ?_
  rw [unZigZag_zigZag, if_pos ⟨by omega, by omega⟩, Int32.ofInt_toInt]

/-! ## Lists and optional parts -/

/-- Members of at least one byte each are at most as many as their bytes. -/
theorem length_le_length_flatMap {write : α → List UInt8} (some_ : ∀ x, write x ≠ [])
    (xs : List α) : xs.length ≤ (xs.flatMap write).length := by
  induction xs with
  | nil => exact Nat.zero_le _
  | cons x rest ih =>
    have := List.length_pos_iff.mpr (some_ x)
    rw [List.flatMap_cons, List.length_append, List.length_cons]
    omega

theorem reads_many {read : Reader α} {write : α → List UInt8} (member : ReadsBack read write)
    (xs : List α) (short : (xs.flatMap write).length < 0x10000000000000000) :
    Reads (readMany read xs.length) (xs.flatMap write) xs := by
  induction xs with
  | nil => exact fun _ => rfl
  | cons x rest ih =>
    rw [List.flatMap_cons, List.length_append] at short
    exact (member x (by omega)).bind ((ih (by omega)).last rfl)

theorem readsBack_list {read : Reader α} {write : α → List UInt8} (member : ReadsBack read write)
    (some_ : ∀ x, write x ≠ []) : ReadsBack (readList read) (writeList write) := by
  intro xs short
  have fewer := length_le_length_flatMap some_ xs
  rw [writeList, List.length_append] at short
  exact (reads_varint (by omega)).bind (reads_many member xs (by omega))

theorem readsBack_option {read : Reader α} {write : α → List UInt8} (part : ReadsBack read write) :
    ReadsBack (readOption read) (writeOption write) := by
  intro o short
  cases o with
  | none => exact (reads_byte 0).last rfl
  | some x =>
    rw [writeOption, List.length_cons] at short
    exact (reads_byte 1).bind ((part x (by omega)).last rfl)

end Skirmish.Wire
