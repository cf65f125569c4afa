import Skirmish.Proofs.Wire.Grammar.Packet

/-!
# Packets tell where they end

Whatever widths its numbers are written in, a packet that decodes is self-delimiting. A proper
prefix fails with `endOfBytes` or `shortText` and with nothing else, since all that the reader
checks before is as in the whole packet; a proper extension fails with `leftover`.

`Delimits` is the law of a reader and the bytes it takes: it takes them whatever comes behind, and
starves on each proper prefix. Readers with this law (`SelfDelimiting`) compose by
`SelfDelimiting.bind`, also where a later one depends on earlier values.

Results:

* `Delimits.bind`, `SelfDelimiting.bind`: fields in a row;
* `selfDelimiting_varint`, `selfDelimiting_text`, `selfDelimiting_list`: the kinds of fields;
* `selfDelimiting_request`, `selfDelimiting_notice`: packets;
* `decode_only_whole`: prefixes and extensions of bytes that decode.
-/

namespace Skirmish.Wire

variable {α β : Type} {read : Reader α} {next : α → Reader β}

/-! ## Too few bytes -/

/-- `read` fails with `endOfBytes` or `shortText`. -/
def Starves (read : Reader α) (bytes : List UInt8) : Prop :=
  read bytes = .error .endOfBytes ∨ read bytes = .error .shortText

theorem Starves.bind {bytes : List UInt8} (short : Starves read bytes) :
    Starves (read >>= next) bytes := by
  have steps (why : Malformed) (failed : read bytes = .error why) :
      (read >>= next) bytes = .error why := by
    show (read bytes >>= fun (x, rest) => next x rest) = _
    rw [failed]
    rfl
  exact short.imp (steps _) (steps _)

/-- `read` takes `word` for `x`, whatever comes behind, and starves on each proper prefix. -/
structure Delimits (read : Reader α) (word : List UInt8) (x : α) : Prop where
  reads : Reads read word x
  starves : ∀ cut, cut <+: word → cut ≠ word → Starves read cut

/-- `read` delimits whatever it takes. -/
def SelfDelimiting (read : Reader α) : Prop :=
  ∀ bytes x rest, read bytes = .ok (x, rest) → ∃ word, bytes = word ++ rest ∧ Delimits read word x

/-! ## One after the other -/

theorem Reads.bind_apply {word : List UInt8} {x : α} (first : Reads read word x)
    (rest : List UInt8) : (read >>= next) (word ++ rest) = next x rest := by
  show (read (word ++ rest) >>= fun (x, rest) => next x rest) = _
  rw [first]
  rfl

theorem Delimits.bind {word more : List UInt8} {x : α} {y : β} (first : Delimits read word x)
    (then_ : Delimits (next x) more y) : Delimits (read >>= next) (word ++ more) y := by
  refine ⟨first.reads.bind then_.reads, fun cut part strict => ?_⟩
  by_cases whole : word <+: cut
  · -- the first field is still there, and the cut goes through what comes behind it
    obtain ⟨left, rfl⟩ := whole
    have goesOn : Starves (next x) left :=
      then_.starves left ((List.prefix_append_right_inj word).mp part)
        fun same => strict (congrArg _ same)
    unfold Starves at *
    rwa [first.reads.bind_apply]
  · have before : cut <+: word :=
      (List.prefix_or_prefix_of_prefix part (List.prefix_append word more)).resolve_right whole
    exact (first.starves cut before fun same => whole (same ▸ List.prefix_rfl)).bind

theorem selfDelimiting_pure (x : α) : SelfDelimiting (pure x) := by
  intro bytes y rest ok
  cases ok
  refine ⟨[], rfl, fun _ => rfl, fun cut part strict => ?_⟩
  exact absurd (List.prefix_nil.mp part) strict

theorem selfDelimiting_throw (why : Malformed) : SelfDelimiting (throw why : Reader α) := by
  intro bytes x rest ok
  cases ok

theorem SelfDelimiting.bind (first : SelfDelimiting read) (then_ : ∀ x, SelfDelimiting (next x)) :
    SelfDelimiting (read >>= next) := by
  intro bytes y rest ok
  obtain ⟨x, mid, took, goesOn⟩ := exists_of_bind_eq_ok ok
  obtain ⟨word, rfl, field⟩ := first bytes x mid took
  obtain ⟨more, rfl, others⟩ := then_ x mid y rest goesOn
  exact ⟨word ++ more, (List.append_assoc ..).symm, field.bind others⟩

/-! ## Numbers, tags and flags -/

theorem selfDelimiting_byte : SelfDelimiting readByte := by
  intro bytes b rest ok
  cases bytes with
  | nil => cases ok
  | cons first more =>
    cases ok
    refine ⟨[b], rfl, reads_byte b, fun cut part strict => ?_⟩
    rcases List.prefix_cons_iff.mp part with rfl | ⟨left, rfl, none⟩
    · exact .inl rfl
    · exact absurd (congrArg _ (List.prefix_nil.mp none)) strict

theorem selfDelimiting_littleEndian (width : Nat) : SelfDelimiting (readLittleEndian width) := by
  induction width with
  | zero => exact selfDelimiting_pure 0
  | succ width ih =>
    exact selfDelimiting_byte.bind fun _ => ih.bind fun _ => selfDelimiting_pure _

theorem selfDelimiting_varint : SelfDelimiting Varint.read := by
  refine selfDelimiting_byte.bind fun first => ?_
  -- the cases are what the first byte says of the width
  split
  · exact selfDelimiting_pure _
  split
  · exact selfDelimiting_littleEndian 2
  split
  · exact selfDelimiting_littleEndian 4
  split
  · exact selfDelimiting_littleEndian 8
  split
  · exact selfDelimiting_throw _
  · exact selfDelimiting_throw _

theorem selfDelimiting_tag (count : Nat) : SelfDelimiting (readTag count) := by
  refine selfDelimiting_varint.bind fun n => ?_
  split
  · exact selfDelimiting_throw _
  split
  · exact selfDelimiting_pure _
  · exact selfDelimiting_throw _

theorem selfDelimiting_flag : SelfDelimiting readFlag := by
  refine selfDelimiting_byte.bind fun b => ?_
  split
  · exact selfDelimiting_pure _
  split
  · exact selfDelimiting_pure _
  · exact selfDelimiting_throw _

theorem selfDelimiting_health : SelfDelimiting readHealth := by
  refine selfDelimiting_varint.bind fun m => ?_
  dsimp only
  split
  · exact selfDelimiting_pure _
  · exact selfDelimiting_throw _

/-! ## Texts -/

theorem selfDelimiting_bytes (n : Nat) : SelfDelimiting (readBytes n) := by
  intro bytes took rest ok
  unfold readBytes at ok
  split at ok
  · rename_i enough
    cases ok
    have length : (bytes.take n).length = n := List.length_take_of_le enough
    refine ⟨bytes.take n, (List.take_append_drop ..).symm, ?_, fun cut part strict => ?_⟩
    · have reads := reads_bytes (bytes.take n)
      rwa [length] at reads
    · -- a part that is not the whole is shorter
      have few : ¬n ≤ cut.length := fun many =>
        strict (part.eq_of_length_le (Nat.le_trans (Nat.le_of_eq length) many))
      exact .inr (if_neg few)
  · cases ok

theorem selfDelimiting_text : SelfDelimiting readText := by
  refine selfDelimiting_varint.bind fun n => (selfDelimiting_bytes n).bind fun bytes => ?_
  -- the text is judged only when all its bytes are there
  split
  · exact selfDelimiting_pure _
  · exact selfDelimiting_throw _

/-! ## Lists and optional parts -/

theorem selfDelimiting_many (member : SelfDelimiting read) (n : Nat) :
    SelfDelimiting (readMany read n) := by
  induction n with
  | zero => exact selfDelimiting_pure []
  | succ n ih => exact member.bind fun _ => ih.bind fun _ => selfDelimiting_pure _

theorem selfDelimiting_list (member : SelfDelimiting read) : SelfDelimiting (readList read) :=
  selfDelimiting_varint.bind fun n => selfDelimiting_many member n

theorem selfDelimiting_option (part : SelfDelimiting read) : SelfDelimiting (readOption read) := by
  refine selfDelimiting_byte.bind fun b => ?_
  split
  · exact selfDelimiting_pure _
  split
  · exact part.bind fun _ => selfDelimiting_pure _
  · exact selfDelimiting_throw _

/-! ## Jobs, actions, phases and rows -/

theorem selfDelimiting_job : SelfDelimiting readJob := by
  refine (selfDelimiting_tag 4).bind fun tag => ?_
  match tag with
  | 0 | 1 | 2 | 3 => exact selfDelimiting_pure _

theorem selfDelimiting_action : SelfDelimiting readAction := by
  refine (selfDelimiting_tag 4).bind fun tag => ?_
  match tag with
  | 0 | 1 | 2 | 3 => exact selfDelimiting_pure _

theorem selfDelimiting_phase : SelfDelimiting readPhase := by
  refine (selfDelimiting_tag 4).bind fun tag => ?_
  match tag with
  | 0 | 1 | 2 | 3 => exact selfDelimiting_pure _

theorem selfDelimiting_snapshot : SelfDelimiting readSnapshot :=
  selfDelimiting_text.bind fun _ => selfDelimiting_health.bind fun _ =>
    selfDelimiting_flag.bind fun _ => selfDelimiting_job.bind fun _ => selfDelimiting_pure _

theorem selfDelimiting_listRow : SelfDelimiting readListRow :=
  selfDelimiting_text.bind fun _ => selfDelimiting_flag.bind fun _ => selfDelimiting_pure _

theorem selfDelimiting_statsRow : SelfDelimiting readStatsRow :=
  selfDelimiting_text.bind fun _ => selfDelimiting_job.bind fun _ =>
    selfDelimiting_health.bind fun _ => selfDelimiting_pure _

/-! ## Packets -/

theorem selfDelimiting_request : SelfDelimiting readRequest := by
  refine (selfDelimiting_tag 8).bind fun tag => ?_
  match tag with
  | 0 =>
    exact selfDelimiting_text.bind fun _ => selfDelimiting_flag.bind fun _ => selfDelimiting_pure _
  | 1 | 2 | 3 | 4 => exact selfDelimiting_pure _
  | 5 => exact selfDelimiting_text.bind fun _ => selfDelimiting_pure _
  | 6 => exact selfDelimiting_job.bind fun _ => selfDelimiting_pure _
  | 7 =>
    exact selfDelimiting_action.bind fun _ => selfDelimiting_text.bind fun _ =>
      selfDelimiting_pure _

theorem selfDelimiting_notice : SelfDelimiting readNotice := by
  refine (selfDelimiting_tag 8).bind fun tag => ?_
  match tag with
  | 1 | 4 => exact selfDelimiting_pure _
  | 0 | 7 => exact selfDelimiting_text.bind fun _ => selfDelimiting_pure _
  | 2 => exact (selfDelimiting_list selfDelimiting_listRow).bind fun _ => selfDelimiting_pure _
  | 3 => exact (selfDelimiting_list selfDelimiting_statsRow).bind fun _ => selfDelimiting_pure _
  | 5 =>
    exact selfDelimiting_phase.bind fun _ =>
      (selfDelimiting_option (selfDelimiting_list selfDelimiting_snapshot)).bind fun _ =>
        selfDelimiting_pure _
  | 6 =>
    exact selfDelimiting_text.bind fun _ => selfDelimiting_health.bind fun _ =>
      selfDelimiting_pure _

/-! ## Decoding -/

section

variable {α : Type} [Packet α] {packet : α} {bytes : List UInt8}

theorem delimits_of_decode (law : SelfDelimiting (Packet.read : Reader α))
    (ok : decode bytes = .ok packet) : Delimits Packet.read bytes packet := by
  obtain ⟨word, eq, delimits⟩ := law bytes packet [] (read_of_decode ok)
  rw [List.append_nil] at eq
  exact eq ▸ delimits

theorem decode_of_starves (short : Starves (Packet.read : Reader α) bytes) :
    (decode bytes : Except Malformed α) = .error .endOfBytes ∨
      (decode bytes : Except Malformed α) = .error .shortText := by
  unfold decode
  rcases short with failed | failed
  · exact .inl (by rw [failed])
  · exact .inr (by rw [failed])

theorem decode_append_of_reads (reads : Reads Packet.read bytes packet) {more : List UInt8}
    (some_ : more ≠ []) : (decode (bytes ++ more) : Except Malformed α) = .error .leftover := by
  obtain ⟨b, rest, rfl⟩ := List.exists_cons_of_ne_nil some_
  unfold decode
  rw [reads]

end

/-- Let `bytes` decode as a request or a notice. Then `decode` of each proper prefix is `endOfBytes`
or `shortText`, and of each proper extension `leftover`. -/
theorem decode_only_whole (bytes : List UInt8) :
    (∀ r : Request, decode bytes = .ok r →
      (∀ cut, cut <+: bytes → cut ≠ bytes →
        (decode cut : Except Malformed Request) = .error .endOfBytes ∨
          (decode cut : Except Malformed Request) = .error .shortText) ∧
      ∀ more, more ≠ [] →
        (decode (bytes ++ more) : Except Malformed Request) = .error .leftover) ∧
    ∀ n : Notice, decode bytes = .ok n →
      (∀ cut, cut <+: bytes → cut ≠ bytes →
        (decode cut : Except Malformed Notice) = .error .endOfBytes ∨
          (decode cut : Except Malformed Notice) = .error .shortText) ∧
      ∀ more, more ≠ [] →
        (decode (bytes ++ more) : Except Malformed Notice) = .error .leftover := by
  constructor
  · intro r ok
    have delimits := delimits_of_decode selfDelimiting_request ok
    exact ⟨fun cut part strict => decode_of_starves (delimits.starves cut part strict),
      fun more some_ => decode_append_of_reads delimits.reads some_⟩
  · intro n ok
    have delimits := delimits_of_decode selfDelimiting_notice ok
    exact ⟨fun cut part strict => decode_of_starves (delimits.starves cut part strict),
      fun more some_ => decode_append_of_reads delimits.reads some_⟩

/-- A notice of two rows, with a list count, a length and a health in wider words than they need. -/
def spaciousRoster : List UInt8 :=
  [5, 2, 1, 251, 2, 0,
    1, 65, 252, 200, 0, 0, 0, 1, 0,
    251, 3, 0, 0xE2, 0x82, 0xAC, 199, 0, 251, 1, 0]

/-- Each proper prefix of `spaciousRoster` is too short, and one byte more is left over. -/
theorem decode_only_whole_spaciousRoster :
    decode spaciousRoster = .ok (Notice.phaseChanged .main
        (some [⟨"A", 100, true, .wizard⟩, ⟨"€", -100, false, .warrior⟩])) ∧
      (∀ cut, cut <+: spaciousRoster → cut ≠ spaciousRoster →
        (decode cut : Except Malformed Notice) = .error .endOfBytes ∨
          (decode cut : Except Malformed Notice) = .error .shortText) ∧
      (decode (spaciousRoster ++ [0]) : Except Malformed Notice) = .error .leftover := by
  have ok : decode spaciousRoster = .ok (Notice.phaseChanged .main
      (some [⟨"A", 100, true, .wizard⟩, ⟨"€", -100, false, .warrior⟩])) := by decide +kernel
  obtain ⟨cuts, longer⟩ := (decode_only_whole spaciousRoster).2 _ ok
  exact ⟨ok, cuts, longer [0] (by decide)⟩

end Skirmish.Wire
