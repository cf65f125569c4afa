import Skirmish.Proofs.Text.Utf8.Canonical
import Skirmish.Proofs.Wire.Field
import Skirmish.Proofs.Wire.Grammar

/-!
# Fields are read from their words

A reader of a field takes just the words of that field. `Reads` says that every word is read,
whatever comes behind it. `Finds` says that what is taken is a word; it keeps the bytes of earlier
fields (`seen`), so that fields in a row compose by `Finds.bind`.

What the writer gives is the shortest word: each part of a word is as written, or longer
(`NoShorter`), and this adds up.

Results:

* `Finds.bind`, `Finds.pure`: fields in a row;
* `finds_varint`, `finds_text`, `finds_health`, `finds_list`, `finds_option`: what is taken is a
  word;
* `Varint.Word.reads`, `TextWord.reads`, `HealthWord.reads`, `ListWord.reads`, `OptionWord.reads`:
  every word is read;
* `Varint.Word.shortest`, `TextWord.shortest`, `ListWord.shortest`, `OptionWord.shortest`: the
  shortest word is the one that is written.
-/

namespace Skirmish.Wire

variable {α β : Type} {read : Reader α} {next : α → Reader β} {seen bytes rest : List UInt8}

/-! ## One after the other -/

/-- Whatever `read` takes makes a word of the value, together with `seen`. -/
def Finds (read : Reader α) (seen : List UInt8) (Word : α → List UInt8 → Prop) : Prop :=
  ∀ bytes x rest, read bytes = .ok (x, rest) → ∃ word, bytes = word ++ rest ∧ Word x (seen ++ word)

section

variable {Word : α → List UInt8 → Prop} {Whole : β → List UInt8 → Prop}

theorem exists_of_bind_eq_ok {y : β} (ok : (read >>= next) bytes = .ok (y, rest)) :
    ∃ x mid, read bytes = .ok (x, mid) ∧ next x mid = .ok (y, rest) := by
  have steps : (read bytes >>= fun (x, mid) => next x mid) = .ok (y, rest) := ok
  cases took : read bytes with
  | error why =>
    rw [took] at steps
    cases steps
  | ok first =>
    rw [took] at steps
    exact ⟨first.1, first.2, rfl, steps⟩

theorem Finds.pure {x : α} (word : Word x seen) : Finds (pure x) seen Word := by
  intro bytes x rest ok
  cases ok
  exact ⟨[], rfl, by rwa [List.append_nil]⟩

theorem finds_throw (why : Malformed) : Finds (throw why) seen Word := by
  intro bytes x rest ok
  cases ok

theorem Finds.bind (field : Finds read [] Word)
    (then_ : ∀ x word, Word x word → Finds (next x) (seen ++ word) Whole) :
    Finds (read >>= next) seen Whole := by
  intro bytes y rest ok
  obtain ⟨x, mid, took, goesOn⟩ := exists_of_bind_eq_ok ok
  obtain ⟨word, rfl, first⟩ := field bytes x mid took
  obtain ⟨more, rfl, whole⟩ := then_ x word first mid y rest goesOn
  exact ⟨word ++ more, (List.append_assoc ..).symm, by rwa [← List.append_assoc]⟩

/-- The last field of a word. -/
theorem Finds.behind {Field : α → List UInt8 → Prop} (field : Finds read [] Field)
    (whole : ∀ x word, Field x word → Word x (seen ++ word)) : Finds read seen Word := by
  intro bytes x rest ok
  obtain ⟨word, eq, first⟩ := field bytes x rest ok
  exact ⟨word, eq, whole x word first⟩

end

/-! ## What is shortest -/

/-- `word` is as written, or longer. -/
def NoShorter (written word : List UInt8) : Prop :=
  word = written ∨ written.length < word.length

theorem NoShorter.append {written word written' word' : List UInt8} (h : NoShorter written word)
    (h' : NoShorter written' word') : NoShorter (written ++ written') (word ++ word') := by
  unfold NoShorter at *
  rw [List.length_append, List.length_append]
  rcases h with rfl | longer
  · rcases h' with rfl | longer'
    · exact .inl rfl
    · exact .inr (by omega)
  · rcases h' with rfl | longer'
    · exact .inr (by omega)
    · exact .inr (by omega)

theorem NoShorter.refl (written : List UInt8) : NoShorter written written :=
  .inl rfl

theorem NoShorter.length_le {written word : List UInt8} (h : NoShorter written word) :
    written.length ≤ word.length := by
  rcases h with rfl | longer
  · exact Nat.le_refl _
  · exact Nat.le_of_lt longer

theorem NoShorter.length_eq_iff {written word : List UInt8} (h : NoShorter written word) :
    word.length = written.length ↔ word = written := by
  constructor
  · intro same
    rcases h with eq | longer
    · exact eq
    · omega
  · exact congrArg List.length

/-- `written` is a word, and `word` is no shorter. -/
structure Shortest (Word : List UInt8 → Prop) (written word : List UInt8) : Prop where
  isWord : Word written
  noShorter : NoShorter written word

/-! ## Numbers -/

theorem finds_byte : Finds readByte [] fun b word => word = [b] := by
  intro bytes b rest ok
  cases bytes with
  | nil => cases ok
  | cons first more =>
    cases ok
    exact ⟨[b], rfl, rfl⟩

theorem littleEndian_succ (low : UInt8) (high width : Nat) :
    littleEndian (width + 1) (low.toNat + 256 * high) = low :: littleEndian width high := by
  have small := low.toNat_lt
  have upper : (low.toNat + 256 * high) / 256 = high := by omega
  have lower : UInt8.ofNat (low.toNat + 256 * high) = low := by
    rw [← UInt8.toNat_inj, UInt8.toNat_ofNat']
    omega
  rw [littleEndian, upper, lower]

theorem finds_littleEndian (width : Nat) :
    Finds (readLittleEndian width) [] fun n word =>
      n < 256 ^ width ∧ word = littleEndian width n := by
  induction width with
  | zero => exact .pure ⟨Nat.one_pos, rfl⟩
  | succ width ih =>
    refine finds_byte.bind fun low lowWord lowEq => ?_
    refine ih.bind fun high highWord highEq => ?_
    obtain ⟨bound, rfl⟩ := highEq
    subst lowEq
    have small := low.toNat_lt
    refine .pure ⟨?_, (littleEndian_succ low high width).symm⟩
    rw [Nat.pow_succ]
    omega

theorem finds_varint : Finds Varint.read [] Varint.Word := by
  refine finds_byte.bind fun first word eq => ?_
  subst eq
  -- the cases are what the first byte says of the width
  split
  · rename_i small
    refine .pure ?_
    have word := Varint.Word.one small
    rwa [UInt8.ofNat_toNat] at word
  split
  · subst first
    exact (finds_littleEndian 2).behind fun n word ⟨fits, eq⟩ => eq ▸ .two fits
  split
  · subst first
    exact (finds_littleEndian 4).behind fun n word ⟨fits, eq⟩ => eq ▸ .four fits
  split
  · subst first
    exact (finds_littleEndian 8).behind fun n word ⟨fits, eq⟩ => eq ▸ .eight fits
  split
  · exact finds_throw _
  · exact finds_throw _

theorem Varint.Word.reads {n : Nat} {word : List UInt8} (h : Varint.Word n word) :
    Reads Varint.read word n := by
  intro rest
  cases h with
  | one fits =>
    have written : Varint.write n = [UInt8.ofNat n] := if_pos fits
    rw [← written]
    exact Varint.read_write (by omega) rest
  | two fits =>
    show readLittleEndian 2 (littleEndian 2 n ++ rest) = _
    rw [readLittleEndian_littleEndian, Nat.mod_eq_of_lt (by omega)]
  | four fits =>
    show readLittleEndian 4 (littleEndian 4 n ++ rest) = _
    rw [readLittleEndian_littleEndian, Nat.mod_eq_of_lt (by omega)]
  | eight fits =>
    show readLittleEndian 8 (littleEndian 8 n ++ rest) = _
    rw [readLittleEndian_littleEndian, Nat.mod_eq_of_lt (by omega)]

theorem Varint.Word.lt {n : Nat} {word : List UInt8} (h : Varint.Word n word) :
    n < 0x10000000000000000 := by
  cases h <;> omega

theorem Varint.word_write {n : Nat} (fits : n < 0x10000000000000000) :
    Varint.Word n (Varint.write n) := by
  unfold Varint.write
  split
  · exact .one ‹_›
  split
  · exact .two ‹_›
  split
  · exact .four ‹_›
  · exact .eight fits

/-- A number has at most one word of each length. -/
theorem Varint.Word.eq_of_length {n : Nat} {word other : List UInt8} (h : Varint.Word n word)
    (h' : Varint.Word n other) (same : word.length = other.length) : word = other := by
  cases h with
  | one | two | four | eight => cases h' <;> first | rfl | simp at same

theorem Varint.Word.length_write_le {n : Nat} {word : List UInt8} (h : Varint.Word n word) :
    (Varint.write n).length ≤ word.length := by
  rw [Varint.length_write]
  cases h with
  | one fits => exact Nat.le_of_eq (if_pos fits)
  | two fits | four fits | eight fits =>
    rw [List.length_cons, length_littleEndian]
    repeat' split
    all_goals omega

theorem Varint.Word.shortest {n : Nat} {word : List UInt8} (h : Varint.Word n word) :
    Shortest (Varint.Word n) (Varint.write n) word := by
  have isWord := Varint.word_write h.lt
  refine ⟨isWord, ?_⟩
  rcases Nat.lt_or_eq_of_le h.length_write_le with longer | same
  · exact .inr longer
  · exact .inl (h.eq_of_length isWord same.symm)

/-! ## Tags -/

theorem finds_tag (count : Nat) : Finds (readTag count) [] fun tag => Varint.Word tag.val := by
  refine finds_varint.bind fun n word isWord => ?_
  split
  · exact finds_throw _
  split
  · exact .pure isWord
  · exact finds_throw _

theorem Varint.Word.reads_tag {count n : Nat} {word : List UInt8} (h : Varint.Word n word)
    (known : n < count) (few : count ≤ 0x100000000) : Reads (readTag count) word ⟨n, known⟩ := by
  refine h.reads.last ?_
  rw [if_neg (by omega), dif_pos known]

/-! ## Flags -/

theorem finds_flag : Finds readFlag [] FlagWord := by
  refine finds_byte.bind fun b word eq => ?_
  subst eq
  split
  · subst b
    exact .pure .no
  split
  · subst b
    exact .pure .yes
  · exact finds_throw _

theorem FlagWord.eq_write {b : Bool} {word : List UInt8} (h : FlagWord b word) :
    word = writeFlag b := by
  cases h <;> rfl

theorem FlagWord.reads {b : Bool} {word : List UInt8} (h : FlagWord b word) :
    Reads readFlag word b := by
  rw [h.eq_write]
  exact readsBack_flag b (by simp [writeFlag])

theorem FlagWord.shortest {b : Bool} {word : List UInt8} (h : FlagWord b word) :
    Shortest (FlagWord b) (writeFlag b) word :=
  ⟨h.eq_write ▸ h, .inl h.eq_write⟩

/-! ## Texts -/

theorem finds_bytes (n : Nat) :
    Finds (readBytes n) [] fun took word => word = took ∧ took.length = n := by
  intro bytes took rest ok
  unfold readBytes at ok
  split at ok
  · rename_i enough
    cases ok
    exact ⟨bytes.take n, (List.take_append_drop ..).symm, rfl, List.length_take_of_le enough⟩
  · cases ok

theorem finds_text : Finds readText [] TextWord := by
  refine finds_varint.bind fun n count counted => ?_
  refine (finds_bytes n).bind fun bytes word ⟨eq, length⟩ => ?_
  subst eq length
  split
  · rename_i cs decoded
    obtain rfl := Text.Utf8.decode_eq_ok_iff.mp decoded
    have word : Varint.Word _ count → TextWord (String.ofList cs) _ := .intro
    rw [String.toList_ofList] at word
    exact .pure (word counted)
  · exact finds_throw _

theorem TextWord.reads {s : String} {word : List UInt8} (h : TextWord s word) :
    Reads readText word s := by
  obtain ⟨counted⟩ := h
  refine counted.reads.bind ((reads_bytes _).last ?_)
  rw [Text.Utf8.decode_encode]
  simp

theorem TextWord.shortest {s : String} {word : List UInt8} (h : TextWord s word) :
    Shortest (TextWord s) (writeText s) word := by
  obtain ⟨counted⟩ := h
  exact ⟨.intro counted.shortest.isWord, counted.shortest.noShorter.append (.refl _)⟩

/-! ## Healths -/

@[simp] theorem zigZag_unZigZag (m : Nat) : zigZag (unZigZag m) = m := by
  unfold unZigZag
  split
  · show 2 * (m / 2) = m
    omega
  · show 2 * (m / 2) + 1 = m
    omega

theorem finds_health : Finds readHealth [] HealthWord := by
  refine finds_varint.bind fun m word isWord => ?_
  dsimp only
  split
  · rename_i inside
    refine .pure ?_
    rw [HealthWord, Int32.toInt_ofInt_of_le inside.1 inside.2, zigZag_unZigZag]
    exact isWord
  · exact finds_throw _

theorem HealthWord.reads {h : Int32} {word : List UInt8} (isWord : HealthWord h word) :
    Reads readHealth word h := by
  have low := h.le_toInt
  have high := h.toInt_lt
  refine Varint.Word.reads isWord |>.last ?_
  rw [unZigZag_zigZag, if_pos ⟨by omega, by omega⟩, Int32.ofInt_toInt]

theorem HealthWord.shortest {h : Int32} {word : List UInt8} (isWord : HealthWord h word) :
    Shortest (HealthWord h) (writeHealth h) word :=
  Varint.Word.shortest isWord

/-! ## Lists and optional parts -/

section

variable {Member : α → List UInt8 → Prop} {write : α → List UInt8} {word : List UInt8}

theorem finds_many (member : Finds read [] Member) (n : Nat) :
    Finds (readMany read n) [] fun xs word => xs.length = n ∧ EachWord Member xs word := by
  induction n with
  | zero => exact .pure ⟨rfl, .nil⟩
  | succ n ih =>
    refine member.bind fun x word first => ?_
    refine ih.bind fun xs more ⟨length, others⟩ => ?_
    exact .pure ⟨congrArg (· + 1) length, .cons first others⟩

theorem finds_list (member : Finds read [] Member) :
    Finds (readList read) [] (ListWord Member) := by
  refine finds_varint.bind fun n count counted => ?_
  exact (finds_many member n).behind fun xs members ⟨length, each⟩ =>
    .intro (length ▸ counted) each

theorem finds_option (part : Finds read [] Member) :
    Finds (readOption read) [] (OptionWord Member) := by
  refine finds_byte.bind fun b word eq => ?_
  subst eq
  split
  · subst b
    exact .pure .none
  split
  · subst b
    exact part.bind fun x word isWord => .pure (.some isWord)
  · exact finds_throw _

theorem EachWord.reads (member : ∀ x word, Member x word → Reads read word x) {xs : List α}
    (h : EachWord Member xs word) : Reads (readMany read xs.length) word xs := by
  induction h with
  | nil => exact fun _ => rfl
  | cons first others ih => exact (member _ _ first).bind (ih.last rfl)

theorem ListWord.reads (member : ∀ x word, Member x word → Reads read word x) {xs : List α}
    (h : ListWord Member xs word) : Reads (readList read) word xs := by
  obtain ⟨counted, each⟩ := h
  exact counted.reads.bind (each.reads member)

theorem OptionWord.reads (part : ∀ x word, Member x word → Reads read word x) {o : Option α}
    (h : OptionWord Member o word) : Reads (readOption read) word o := by
  cases h with
  | none => exact (reads_byte 0).last rfl
  | some isWord => exact (reads_byte 1).bind ((part _ _ isWord).last rfl)

theorem EachWord.shortest
    (member : ∀ x word, Member x word → Shortest (Member x) (write x) word) {xs : List α}
    (h : EachWord Member xs word) : Shortest (EachWord Member xs) (xs.flatMap write) word := by
  induction h with
  | nil => exact ⟨.nil, .refl _⟩
  | cons first others ih =>
    rw [List.flatMap_cons]
    have here := member _ _ first
    exact ⟨.cons here.isWord ih.isWord, here.noShorter.append ih.noShorter⟩

theorem ListWord.shortest
    (member : ∀ x word, Member x word → Shortest (Member x) (write x) word) {xs : List α}
    (h : ListWord Member xs word) : Shortest (ListWord Member xs) (writeList write xs) word := by
  obtain ⟨counted, each⟩ := h
  have members := EachWord.shortest member each
  exact ⟨.intro counted.shortest.isWord members.isWord,
    counted.shortest.noShorter.append members.noShorter⟩

theorem OptionWord.shortest
    (part : ∀ x word, Member x word → Shortest (Member x) (write x) word) {o : Option α}
    (h : OptionWord Member o word) : Shortest (OptionWord Member o) (writeOption write o) word := by
  cases h with
  | none => exact ⟨.none, .refl _⟩
  | some isWord =>
    have tagged := (NoShorter.refl [1]).append (part _ _ isWord).noShorter
    exact ⟨.some (part _ _ isWord).isWord, tagged⟩

end

end Skirmish.Wire
