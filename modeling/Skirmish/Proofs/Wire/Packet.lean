import Skirmish.Proofs.Wire.Field
import Skirmish.Proofs.Wire.Size

/-!
# Packets are read back

`Packet.read` gives back what `Packet.write` has written, variant by variant: the tag is the one
that is looked for, and the fields come in the same order. So `encode` and `decode` are inverse on
packets of at most `Rules.maxPacketBytes`.

Results:

* `readsBack_request`, `readsBack_notice`: packets are read back, whatever comes behind them;
* `decode_of_encode`: which packets encode, and that they decode as they were.
-/

namespace Skirmish.Wire

/-! ## Jobs, actions and phases -/

theorem readsBack_job : ReadsBack readJob writeJob := by
  intro job _
  cases job <;> exact (reads_tag (by decide) (by decide)).last rfl

theorem readsBack_action : ReadsBack readAction writeAction := by
  intro action _
  cases action <;> exact (reads_tag (by decide) (by decide)).last rfl

theorem readsBack_phase : ReadsBack readPhase writePhase := by
  intro phase _
  cases phase <;> exact (reads_tag (by decide) (by decide)).last rfl

/-! ## Rows -/

theorem readsBack_snapshot : ReadsBack readSnapshot writeSnapshot := by
  intro s short
  simp only [writeSnapshot, List.append_assoc, List.length_append] at short ⊢
  exact (readsBack_text _ (by omega)).bind ((readsBack_health _ (by omega)).bind
    ((readsBack_flag _ (by omega)).bind ((readsBack_job _ (by omega)).last rfl)))

theorem readsBack_listRow : ReadsBack readListRow writeListRow := by
  intro row short
  simp only [writeListRow, List.length_append] at short ⊢
  exact (readsBack_text _ (by omega)).bind ((readsBack_flag _ (by omega)).last rfl)

theorem readsBack_statsRow : ReadsBack readStatsRow writeStatsRow := by
  intro row short
  simp only [writeStatsRow, List.append_assoc, List.length_append] at short ⊢
  exact (readsBack_text _ (by omega)).bind ((readsBack_job _ (by omega)).bind
    ((readsBack_health _ (by omega)).last rfl))

theorem writeText_ne_nil (s : String) : writeText s ≠ [] := by
  apply List.ne_nil_of_length_pos
  rw [length_writeText, textSize]
  have := Varint.size_pos s.utf8ByteSize
  omega

theorem writeSnapshot_ne_nil (s : Snapshot) : writeSnapshot s ≠ [] := by
  simp [writeSnapshot, writeText_ne_nil]

theorem writeListRow_ne_nil (row : String × Bool) : writeListRow row ≠ [] := by
  simp [writeListRow, writeText_ne_nil]

theorem writeStatsRow_ne_nil (row : String × Job × Int32) : writeStatsRow row ≠ [] := by
  simp [writeStatsRow, writeText_ne_nil]

/-! ## Requests and notices -/

theorem readsBack_request : ReadsBack readRequest writeRequest := by
  intro r short
  cases r with
  | intro name ready =>
    simp only [writeRequest, List.append_assoc, List.length_append] at short ⊢
    exact (reads_tag (by decide) (by decide)).bind ((readsBack_text _ (by omega)).bind
      ((readsBack_flag _ (by omega)).last rfl))
  | ready | unready | listPlayers | listStats =>
    exact (reads_tag (by decide) (by decide)).last rfl
  | chat text =>
    simp only [writeRequest, List.length_append] at short ⊢
    exact (reads_tag (by decide) (by decide)).bind ((readsBack_text _ (by omega)).last rfl)
  | chooseJob job =>
    simp only [writeRequest, List.length_append] at short ⊢
    exact (reads_tag (by decide) (by decide)).bind ((readsBack_job _ (by omega)).last rfl)
  | act action target =>
    simp only [writeRequest, List.append_assoc, List.length_append] at short ⊢
    exact (reads_tag (by decide) (by decide)).bind ((readsBack_action _ (by omega)).bind
      ((readsBack_text _ (by omega)).last rfl))

theorem readsBack_notice : ReadsBack readNotice writeNotice := by
  intro n short
  cases n with
  | chat text | disconnected text =>
    simp only [writeNotice, List.length_append] at short ⊢
    exact (reads_tag (by decide) (by decide)).bind ((readsBack_text _ (by omega)).last rfl)
  | gameStarted | takeTurn => exact (reads_tag (by decide) (by decide)).last rfl
  | playerList players =>
    simp only [writeNotice, List.length_append] at short ⊢
    have list := readsBack_list readsBack_listRow writeListRow_ne_nil
    exact (reads_tag (by decide) (by decide)).bind ((list _ (by omega)).last rfl)
  | playerStats players =>
    simp only [writeNotice, List.length_append] at short ⊢
    have list := readsBack_list readsBack_statsRow writeStatsRow_ne_nil
    exact (reads_tag (by decide) (by decide)).bind ((list _ (by omega)).last rfl)
  | phaseChanged phase roster =>
    simp only [writeNotice, List.append_assoc, List.length_append] at short ⊢
    have part := readsBack_option (readsBack_list readsBack_snapshot writeSnapshot_ne_nil)
    exact (reads_tag (by decide) (by decide)).bind ((readsBack_phase _ (by omega)).bind
      ((part _ (by omega)).last rfl))
  | healthChanged name health =>
    simp only [writeNotice, List.append_assoc, List.length_append] at short ⊢
    exact (reads_tag (by decide) (by decide)).bind ((readsBack_text _ (by omega)).bind
      ((readsBack_health _ (by omega)).last rfl))

/-! ## Sending -/

section

variable {α : Type} [Packet α] {packet : α} {bytes : List UInt8}

theorem encode_eq_ok_iff :
    encode packet = .ok bytes ↔
      bytes = Packet.write packet ∧ (Packet.write packet).length ≤ Rules.maxPacketBytes := by
  simp only [encode]
  constructor
  · intro h
    split at h
    · cases h
      exact ⟨rfl, ‹_›⟩
    · cases h
  · rintro ⟨rfl, small⟩
    rw [if_pos small]

theorem decode_of_reads (reads : Reads Packet.read bytes packet) : decode bytes = .ok packet := by
  have all := reads []
  rw [List.append_nil] at all
  rw [decode, all]

/-- A packet whose type is `ReadsBack` encodes iff `Packet.write` is within the limit, and then
decodes as it was. -/
theorem travels (law : ReadsBack Packet.read (Packet.write : α → List UInt8)) (packet : α) :
    ((∃ bytes, encode packet = .ok bytes) ↔
        (Packet.write packet).length ≤ Rules.maxPacketBytes) ∧
      ∀ bytes, encode packet = .ok bytes →
        bytes.length ≤ Rules.maxPacketBytes ∧ decode bytes = .ok packet := by
  refine ⟨⟨?_, fun small => ⟨_, encode_eq_ok_iff.mpr ⟨rfl, small⟩⟩⟩, fun bytes sent => ?_⟩
  · rintro ⟨bytes, sent⟩
    exact (encode_eq_ok_iff.mp sent).2
  · obtain ⟨rfl, small⟩ := encode_eq_ok_iff.mp sent
    have short : (Packet.write packet).length < 0x10000000000000000 :=
      Nat.lt_of_le_of_lt small (by decide)
    exact ⟨small, decode_of_reads (law packet short)⟩

end

/-- For requests and notices: `encode` succeeds iff `size` is at most 4096, with at most 4096 bytes,
and `decode` gives the packet back. -/
theorem decode_of_encode :
    (∀ r : Request, ((∃ bytes, encode r = .ok bytes) ↔ r.size ≤ 4096) ∧
      ∀ bytes, encode r = .ok bytes → bytes.length ≤ 4096 ∧ decode bytes = .ok r) ∧
    ∀ n : Notice, ((∃ bytes, encode n = .ok bytes) ↔ n.size ≤ 4096) ∧
      ∀ bytes, encode n = .ok bytes → bytes.length ≤ 4096 ∧ decode bytes = .ok n := by
  constructor
  · intro r
    have size : (Packet.write r).length = r.size := length_writeRequest r
    have law := travels readsBack_request r
    rwa [size] at law
  · intro n
    have size : (Packet.write n).length = n.size := length_writeNotice n
    have law := travels readsBack_notice n
    rwa [size] at law

end Skirmish.Wire
