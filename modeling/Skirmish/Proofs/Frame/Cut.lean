import Skirmish.Proofs.Frame
import Skirmish.Proofs.Wire.Packet

/-!
# Streams that are cut off

A stream of frames that `write_packet` has written is cut after any number of bytes. `read_frame`
then gives the packets whose frames are whole, in order, and the end. It takes a stream that ends
inside a length for one that was closed between frames, so the end is `clean` there too; only inside
a payload it is `cutShort`.

Results:

* `framed_take`: the payloads and the end of a stream that is cut;
* `frames_survive`: what is read of written packets, whole and after every cut.
-/

namespace Skirmish

open Wire

/-! ## Payloads -/

/-- The end of a stream that is cut at `cut`, with `whole` frames before: `cutShort` if the header
of the next frame is there, else `clean`. -/
def Frame.leftOff (frames : List (List UInt8)) (whole cut : Nat) : StreamEnd :=
  if cut < (frames.take whole).flatten.length + 4 then .clean else .cutShort

/-- Exactly the first `whole` frames end within the first `bytes` bytes. -/
def Frame.EndWithin (frames : List (List UInt8)) (bytes whole : Nat) : Prop :=
  ∀ i < frames.length, i < whole ↔ (frames.take (i + 1)).flatten.length ≤ bytes

variable {frames payloads : List (List UInt8)}

theorem Frame.leftOff_ne_stopped {whole cut : Nat} : leftOff frames whole cut ≠ .stopped := by
  unfold leftOff
  split <;> simp

theorem Frame.EndWithin.cons {first : List UInt8} {bytes whole : Nat}
    (h : EndWithin frames bytes whole) :
    EndWithin (first :: frames) (first.length + bytes) (whole + 1) := by
  intro i small
  cases i with
  | zero => simp
  | succ i =>
    have there := h i (Nat.lt_of_succ_lt_succ small)
    simp only [List.take_succ_cons, List.flatten_cons, List.length_append, Nat.add_lt_add_iff_right,
      Nat.add_le_add_iff_left]
    exact there

theorem Frame.EndWithin.zero {first : List UInt8} {bytes : Nat} (few : bytes < first.length) :
    EndWithin (first :: frames) bytes 0 := by
  intro i _
  simp only [List.take_succ_cons, List.flatten_cons, List.length_append]
  omega

/-- The frames of payloads within the limit are `Framed`, with a clean end. -/
theorem framed_flatten (fits : ∀ payload ∈ payloads, payload.length ≤ Rules.maxPacketBytes) :
    Framed (payloads.map Frame.ofPayload).flatten payloads .clean := by
  induction payloads with
  | nil => exact .clean (Nat.zero_lt_succ 3)
  | cons payload rest ih =>
    rw [List.map_cons, List.flatten_cons]
    exact .frame (fits payload List.mem_cons_self)
      (ih fun p there => fits p (List.mem_cons_of_mem _ there))

/-- A proper prefix of a frame holds no payload; it is `clean` below four bytes. -/
theorem framed_take_first {payload : List UInt8} (fits : payload.length ≤ Rules.maxPacketBytes)
    {k : Nat} (few : k < (Frame.ofPayload payload).length) :
    Framed ((Frame.ofPayload payload).take k) [] (if k < 4 then .clean else .cutShort) := by
  split
  · exact .clean (by simp; omega)
  · rw [Frame.length_ofPayload] at few
    rw [Frame.ofPayload, List.take_append, List.take_of_length_le (by simp; omega),
      Frame.length_header]
    exact .cutShort fits (by simp; omega)

/-- The first `k` bytes of the frames are `Framed` with the payloads that `EndWithin` `k`. -/
theorem framed_take (fits : ∀ payload ∈ payloads, payload.length ≤ Rules.maxPacketBytes) (k : Nat) :
    ∃ n ≤ payloads.length, Frame.EndWithin (payloads.map Frame.ofPayload) k n ∧
      Framed ((payloads.map Frame.ofPayload).flatten.take k) (payloads.take n)
        (Frame.leftOff (payloads.map Frame.ofPayload) n
          ((payloads.map Frame.ofPayload).flatten.take k).length) := by
  induction payloads generalizing k with
  | nil =>
    refine ⟨0, Nat.le_refl 0, fun i small => absurd small (Nat.not_lt_zero i), ?_⟩
    rw [List.map_nil, List.flatten_nil, List.take_nil]
    exact .clean (Nat.zero_lt_succ 3)
  | cons payload rest ih =>
    have small := fits payload List.mem_cons_self
    by_cases few : k < (Frame.ofPayload payload).length
    · have cut : ((payload :: rest).map Frame.ofPayload).flatten.take k =
          (Frame.ofPayload payload).take k := by
        rw [List.map_cons, List.flatten_cons, List.take_append_of_le_length (Nat.le_of_lt few)]
      refine ⟨0, Nat.zero_le _, .zero few, ?_⟩
      have length : ((Frame.ofPayload payload).take k).length = k :=
        List.length_take_of_le (Nat.le_of_lt few)
      rw [cut, Frame.leftOff, length]
      simpa using framed_take_first small few
    · -- the first frame is whole, and the cut is somewhere behind it
      obtain ⟨k, rfl⟩ := Nat.exists_eq_add_of_le (Nat.le_of_not_lt few)
      obtain ⟨n, le, within, framed⟩ := ih (fun p there => fits p (List.mem_cons_of_mem _ there)) k
      refine ⟨n + 1, Nat.succ_le_succ le, within.cons, ?_⟩
      have cut : ((payload :: rest).map Frame.ofPayload).flatten.take
          ((Frame.ofPayload payload).length + k) =
            Frame.ofPayload payload ++ (rest.map Frame.ofPayload).flatten.take k := by
        rw [List.map_cons, List.flatten_cons, List.take_length_add_append]
      have left : Frame.leftOff ((payload :: rest).map Frame.ofPayload) (n + 1)
          (Frame.ofPayload payload ++ (rest.map Frame.ofPayload).flatten.take k).length =
            Frame.leftOff (rest.map Frame.ofPayload) n
              ((rest.map Frame.ofPayload).flatten.take k).length := by
        simp only [Frame.leftOff, List.map_cons, List.take_succ_cons, List.flatten_cons,
          List.length_append, Nat.add_assoc, Nat.add_lt_add_iff_left]
      rw [cut, left]
      exact framed.frame small

/-! ## Packets -/

/-- `readStream` of `Framed` bytes: each payload decoded or `Malformed`, and then the end. -/
theorem readStream_of_framed {α : Type} [Packet α] {bytes : List UInt8} {how : StreamEnd}
    (framed : Framed bytes payloads how) (ends : how ≠ .stopped) :
    readStream (α := α) bytes =
      (payloads.map fun payload => StreamItem.ofEvent (.frame payload)) ++ [.ended how] := by
  obtain ⟨finish, last, told, nothing⟩ := framed.feed
  rw [if_neg ends] at nothing
  subst nothing
  unfold readStream
  simp only [finish, told, List.append_nil, List.map_map]
  cases how with
  | stopped => exact absurd rfl ends
  | clean | cutShort => rfl

/-- What `readStream` gives for `frames`, whole and after every cut. -/
structure Frame.Survive {α : Type} [Packet α] (packets : List α) (frames : List (List UInt8)) :
    Prop where
  /-- The whole stream gives the packets and ends. -/
  whole : readStream frames.flatten = packets.map .packet ++ [.ended .clean]
  /-- After a number of bytes it gives the packets whose frames end within them. -/
  cut : ∀ k, ∃ n ≤ packets.length, EndWithin frames k n ∧
    readStream (frames.flatten.take k) =
      (packets.take n).map .packet ++ [.ended (leftOff frames n (frames.flatten.take k).length)]

section

variable {α : Type} [Packet α] {packets : List α}

/-- Packets that encode have frames, one for each. -/
theorem mapM_ofPacket (sent : ∀ p ∈ packets, ∃ bytes, encode p = .ok bytes) :
    packets.mapM Frame.ofPacket = .ok ((packets.map Packet.write).map Frame.ofPayload) := by
  induction packets with
  | nil => rfl
  | cons p rest ih =>
    obtain ⟨bytes, encoded⟩ := sent p List.mem_cons_self
    have first : Frame.ofPacket p = .ok (Frame.ofPayload (Packet.write p)) := by
      rw [Frame.ofPacket, encoded, (encode_eq_ok_iff.mp encoded).1]
      rfl
    rw [List.mapM_cons, first, ih fun q there => sent q (List.mem_cons_of_mem _ there)]
    rfl

theorem survive_of_readsBack (law : ReadsBack Packet.read (Packet.write : α → List UInt8))
    (sent : ∀ p ∈ packets, ∃ bytes, encode p = .ok bytes) :
    Frame.Survive packets ((packets.map Packet.write).map Frame.ofPayload) := by
  have arrives (p : α) (there : p ∈ packets) :
      (Packet.write p).length ≤ Rules.maxPacketBytes ∧
        StreamItem.ofEvent (.frame (Packet.write p)) = .packet p := by
    obtain ⟨bytes, encoded⟩ := sent p there
    obtain ⟨small, decoded⟩ := (travels law p).2 bytes encoded
    obtain ⟨rfl, -⟩ := encode_eq_ok_iff.mp encoded
    exact ⟨small, by rw [StreamItem.ofEvent, decoded]⟩
  have fits : ∀ payload ∈ packets.map Packet.write, payload.length ≤ Rules.maxPacketBytes := by
    intro payload written
    obtain ⟨p, there, rfl⟩ := List.mem_map.mp written
    exact (arrives p there).1
  -- the payloads that are left are read as the packets they were written of
  have read (n : Nat) : (((packets.map Packet.write).take n).map fun payload =>
      StreamItem.ofEvent (.frame payload)) = (packets.take n).map .packet := by
    rw [← List.map_take, List.map_map]
    exact List.map_congr_left fun p there => (arrives p (List.mem_of_mem_take there)).2
  constructor
  · have all := read packets.length
    rw [List.take_length, List.take_of_length_le (by simp)] at all
    rw [readStream_of_framed (framed_flatten fits) (by simp), all]
  · intro k
    obtain ⟨n, le, within, framed⟩ := framed_take fits k
    refine ⟨n, by simpa using le, within, ?_⟩
    rw [readStream_of_framed framed Frame.leftOff_ne_stopped, read]

end

/-- For requests and for notices that all encode: reading the whole stream gives the packets in
order and a clean end. Reading its first `k` bytes gives the packets whose frames end within them,
and then a clean end if fewer than four bytes of the next frame are there, and `cutShort` otherwise.
-/
theorem frames_survive :
    (∀ packets : List Request, (∀ p ∈ packets, ∃ bytes, encode p = .ok bytes) →
      ∃ frames, packets.mapM Frame.ofPacket = .ok frames ∧ Frame.Survive packets frames) ∧
    ∀ packets : List Notice, (∀ p ∈ packets, ∃ bytes, encode p = .ok bytes) →
      ∃ frames, packets.mapM Frame.ofPacket = .ok frames ∧ Frame.Survive packets frames :=
  ⟨fun _ sent => ⟨_, mapM_ofPacket sent, survive_of_readsBack readsBack_request sent⟩,
    fun _ sent => ⟨_, mapM_ofPacket sent, survive_of_readsBack readsBack_notice sent⟩⟩

theorem frames_survive_greeting :
    (∀ p ∈ [Request.ready, .chat "hi"], ∃ bytes, encode p = .ok bytes) ∧
      ∃ frames, [Request.ready, .chat "hi"].mapM Frame.ofPacket = .ok frames ∧
        Frame.Survive [Request.ready, .chat "hi"] frames := by
  have sent : ∀ p ∈ [Request.ready, .chat "hi"], ∃ bytes, encode p = .ok bytes := by
    intro p there
    simp only [List.mem_cons, List.not_mem_nil, or_false] at there
    rcases there with rfl | rfl
    · exact ⟨[1], by decide⟩
    · exact ⟨[5, 2, 104, 105], by decide⟩
  exact ⟨sent, frames_survive.1 _ sent⟩

/-- The first frame is whole, and of the second one a byte is missing. -/
example : readStream [0, 0, 0, 1, 1, 0, 0, 0, 4, 5, 2, 104] =
    [.packet Request.ready, .ended .cutShort] := by decide

end Skirmish
