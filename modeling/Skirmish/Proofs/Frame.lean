import Skirmish.Listener
import Skirmish.Wire.Varint.Lemmas

/-!
# What the bytes of a stream hold

`Framed bytes payloads how` says which payloads lie whole in `bytes` and how `bytes` end behind the
last one, without any reader: frames of `Frame.ofPayload`, then fewer than four bytes, a payload
that is cut short, or a length above `Rules.maxPacketBytes`. `FrameReader.feed`, which renders
`read_frame` one byte at a time, finds just that.

Results:

* `exists_framed`, `Framed.unique`: any bytes are `Framed` in exactly one way;
* `Framed.feed`: the events and the end that the reader comes to;
* `FrameReader.within_feed`: no payload exceeds `Rules.maxPacketBytes`.
-/

namespace Skirmish

/-- `bytes` are whole frames with these `payloads`, and end like `how`. -/
inductive Framed : List UInt8 → List (List UInt8) → StreamEnd → Prop
  /-- What is left is too short for a length. -/
  | clean {bytes : List UInt8} (few : bytes.length < 4) : Framed bytes [] .clean
  /-- What is left is shorter than the length before it. -/
  | cutShort {length : Nat} {bytes : List UInt8} (fits : length ≤ Rules.maxPacketBytes)
      (few : bytes.length < length) : Framed (Frame.header length ++ bytes) [] .cutShort
  /-- A length is too large, whatever comes behind it. -/
  | stopped {length : Nat} {bytes : List UInt8} (large : Rules.maxPacketBytes < length)
      (word : length < 0x100000000) : Framed (Frame.header length ++ bytes) [] .stopped
  /-- A whole frame, and what comes behind it. -/
  | frame {payload bytes : List UInt8} {payloads : List (List UInt8)} {how : StreamEnd}
      (fits : payload.length ≤ Rules.maxPacketBytes) (rest : Framed bytes payloads how) :
      Framed (Frame.ofPayload payload ++ bytes) (payload :: payloads) how

/-! ## Lengths -/

@[simp] theorem Frame.length_header (n : Nat) : (Frame.header n).length = 4 := by
  simp [Frame.header]

@[simp] theorem Frame.length_ofPayload (payload : List UInt8) :
    (Frame.ofPayload payload).length = 4 + payload.length := by
  simp [Frame.ofPayload]

/-- Any four bytes are `Frame.header n` for some `n < 2 ^ 32`. -/
theorem Frame.exists_header {bytes : List UInt8} (many : 4 ≤ bytes.length) :
    ∃ n rest, n < 0x100000000 ∧ bytes = Frame.header n ++ rest := by
  match bytes, many with
  | a :: b :: c :: d :: rest, _ =>
    have ha := a.toNat_lt
    have hb := b.toNat_lt
    have hc := c.toNat_lt
    have hd := d.toNat_lt
    refine ⟨((a.toNat * 256 + b.toNat) * 256 + c.toNat) * 256 + d.toNat, rest, by omega, ?_⟩
    simp only [Frame.header, Wire.littleEndian, List.reverse_cons, List.reverse_nil,
      List.nil_append, List.cons_append, List.cons.injEq, and_true, ← UInt8.toNat_inj,
      UInt8.toNat_ofNat']
    omega

/-- Any bytes are `Framed`. -/
theorem exists_framed (bytes : List UInt8) : ∃ payloads how, Framed bytes payloads how := by
  induction size : bytes.length using Nat.strongRecOn generalizing bytes with
  | _ size ih =>
    subst size
    by_cases few : bytes.length < 4
    · exact ⟨[], .clean, .clean few⟩
    obtain ⟨n, rest, word, rfl⟩ := Frame.exists_header (Nat.le_of_not_lt few)
    by_cases fits : n ≤ Rules.maxPacketBytes
    · by_cases short : rest.length < n
      · exact ⟨[], .cutShort, .cutShort fits short⟩
      · -- what comes behind the payload is a shorter stream
        obtain ⟨payloads, how, framed⟩ := ih (rest.drop n).length (by simp; omega) (rest.drop n) rfl
        have whole : (rest.take n).length = n := by simp; omega
        have frame := Framed.frame (Nat.le_trans (Nat.le_of_eq whole) fits) framed
        rw [Frame.ofPayload, whole, List.append_assoc, List.take_append_drop] at frame
        exact ⟨_, how, frame⟩
    · exact ⟨[], .stopped, .stopped (by omega) word⟩

namespace FrameReader

theorem feed_cons (r : FrameReader) (b : UInt8) (rest : List UInt8) :
    r.feed (b :: rest) =
      (((r.push b).1.feed rest).1, (r.push b).2 ++ ((r.push b).1.feed rest).2) := rfl

/-! ## Reading a length -/

theorem feed_header {n : Nat} (word : n < 0x100000000) :
    start.feed (Frame.header n) = (header 3 (n / 256)).push (UInt8.ofNat n) := by
  have value : ((n / 256 / 256 / 256 % 256 * 256 + n / 256 / 256 % 256) * 256 + n / 256 % 256) =
      n / 256 := by omega
  simp [Frame.header, Wire.littleEndian, feed, push, start, value]

theorem feed_header_of_large {n : Nat} (word : n < 0x100000000) (large : Rules.maxPacketBytes < n) :
    start.feed (Frame.header n) = (stopped, [.oversized n]) := by
  have value : n / 256 * 256 + n % 256 = n := by omega
  rw [feed_header word]
  simp [push, value, large]

theorem feed_header_zero : start.feed (Frame.header 0) = (start, [.frame []]) := by
  rw [feed_header (by decide)]
  simp [push]

theorem feed_header_succ {n : Nat} (fits : n + 1 ≤ Rules.maxPacketBytes) :
    start.feed (Frame.header (n + 1)) = (payload n [], []) := by
  have word : n + 1 < 0x100000000 := Nat.lt_of_le_of_lt fits (by decide)
  have value : (n + 1) / 256 * 256 + (n + 1) % 256 = n + 1 := by omega
  rw [feed_header word]
  simp [push, value, Nat.not_lt.mpr fits]

/-- Fewer than four bytes leave the reader in a header. -/
theorem feed_few (seen length : Nat) {bytes : List UInt8} (few : seen + bytes.length < 4) :
    ∃ value, (header seen length).feed bytes = (header (seen + bytes.length) value, []) := by
  induction bytes generalizing seen length with
  | nil => exact ⟨length, rfl⟩
  | cons b rest ih =>
    rw [List.length_cons] at few
    obtain ⟨value, fed⟩ := ih (seen + 1) (length * 256 + b.toNat) (by omega)
    refine ⟨value, ?_⟩
    rw [feed_cons, push, if_pos (by omega), fed, List.length_cons, Nat.add_assoc, Nat.add_comm 1]
    rfl

/-! ## Reading a payload -/

theorem feed_payload_short {missing : Nat} {seen bytes : List UInt8}
    (few : bytes.length ≤ missing) :
    (payload missing seen).feed bytes =
      (payload (missing - bytes.length) (bytes.reverse ++ seen), []) := by
  induction bytes generalizing missing seen with
  | nil => rfl
  | cons b rest ih =>
    obtain ⟨missing, rfl⟩ := Nat.exists_eq_add_one_of_ne_zero (Nat.ne_of_gt (Nat.lt_of_lt_of_le
      (Nat.succ_pos rest.length) few))
    rw [feed_cons, push, ih (Nat.le_of_succ_le_succ few)]
    simp

theorem feed_payload {missing : Nat} {seen bytes : List UInt8}
    (whole : bytes.length = missing + 1) :
    (payload missing seen).feed bytes = (start, [.frame (seen.reverse ++ bytes)]) := by
  induction bytes generalizing missing seen with
  | nil => cases whole
  | cons b rest ih =>
    cases missing with
    | zero =>
      obtain rfl := List.eq_nil_of_length_eq_zero (Nat.succ.inj whole)
      simp [feed, push]
    | succ missing =>
      rw [feed_cons, push, ih (Nat.succ.inj whole)]
      simp

/-- A frame of at most `Rules.maxPacketBytes` gives its payload and leaves the reader at the start.
-/
theorem feed_ofPayload {bytes : List UInt8} (fits : bytes.length ≤ Rules.maxPacketBytes) :
    start.feed (Frame.ofPayload bytes) = (start, [.frame bytes]) := by
  cases bytes with
  | nil => exact feed_header_zero
  | cons b rest =>
    rw [Frame.ofPayload, feed_append, List.length_cons, feed_header_succ fits,
      feed_payload (List.length_cons ..)]
    rfl

/-! ## Lengths that are told -/

/-- The payload that a reader is in has at most `Rules.maxPacketBytes` bytes in all. -/
def Within : FrameReader → Prop
  | .payload missing seen => seen.length + missing < Rules.maxPacketBytes
  | .header .. | .stopped => True

theorem within_push {r : FrameReader} (within : r.Within) (b : UInt8) :
    (r.push b).1.Within ∧
      ∀ payload, .frame payload ∈ (r.push b).2 → payload.length ≤ Rules.maxPacketBytes := by
  cases r with
  | header seen length =>
    rw [push]
    split
    · exact ⟨trivial, by simp⟩
    split
    · exact ⟨trivial, by simp⟩
    split
    · exact ⟨trivial, by simp⟩
    · rename_i missing announced
      refine ⟨?_, by simp⟩
      show 0 + missing < Rules.maxPacketBytes
      omega
  | payload missing seen =>
    have room : seen.length + missing < Rules.maxPacketBytes := within
    cases missing with
    | zero =>
      refine ⟨trivial, fun payload told => ?_⟩
      cases List.mem_singleton.mp told
      rw [List.length_reverse]
      exact room
    | succ missing =>
      refine ⟨?_, fun payload told => absurd told List.not_mem_nil⟩
      show seen.length + 1 + missing < Rules.maxPacketBytes
      omega
  | stopped => exact ⟨trivial, fun payload told => absurd told List.not_mem_nil⟩

/-- `feed` keeps `Within`, and no payload it gives exceeds `Rules.maxPacketBytes`. -/
theorem within_feed {r : FrameReader} (within : r.Within) (bytes : List UInt8) :
    (r.feed bytes).1.Within ∧
      ∀ payload, .frame payload ∈ (r.feed bytes).2 → payload.length ≤ Rules.maxPacketBytes := by
  induction bytes generalizing r with
  | nil => exact ⟨within, fun payload told => absurd told List.not_mem_nil⟩
  | cons b rest ih =>
    obtain ⟨next, first⟩ := within_push within b
    obtain ⟨last, later⟩ := ih next
    rw [feed_cons]
    refine ⟨last, fun payload told => ?_⟩
    exact (List.mem_append.mp told).elim (first payload) (later payload)

end FrameReader

open FrameReader

/-! ## Reading a stream -/

/-- From the start, `feed` gives a `frame` for each payload in order, then `oversized` iff `how` is
`stopped`, and `finish` is `how`. -/
theorem Framed.feed {bytes : List UInt8} {payloads : List (List UInt8)} {how : StreamEnd}
    (h : Framed bytes payloads how) :
    (start.feed bytes).1.finish = how ∧
      ∃ last, (start.feed bytes).2 = payloads.map .frame ++ last ∧
        if how = .stopped then ∃ n, last = [.oversized n] else last = [] := by
  induction h with
  | clean few =>
    obtain ⟨value, fed⟩ := feed_few 0 0 (by rwa [Nat.zero_add])
    rw [start, fed]
    exact ⟨rfl, [], rfl, rfl⟩
  | cutShort fits few =>
    obtain ⟨n, rfl⟩ := Nat.exists_eq_add_one_of_ne_zero (Nat.ne_of_gt (Nat.zero_lt_of_lt few))
    rw [feed_append, feed_header_succ fits, feed_payload_short (Nat.le_of_lt_succ few)]
    exact ⟨rfl, [], rfl, rfl⟩
  | @stopped n bytes large word =>
    rw [feed_append, feed_header_of_large word large, Listener.feed_stopped]
    exact ⟨rfl, [.oversized n], rfl, n, rfl⟩
  | frame fits _ ih =>
    obtain ⟨finish, last, told, ends⟩ := ih
    rw [feed_append, feed_ofPayload fits]
    exact ⟨finish, last, by rw [told]; rfl, ends⟩

/-- The payload of a `frame`. -/
def FrameEvent.payload? : FrameEvent → Option (List UInt8)
  | .frame bytes => some bytes
  | .oversized _ => none

theorem Framed.payloads_eq {bytes : List UInt8} {payloads : List (List UInt8)} {how : StreamEnd}
    (h : Framed bytes payloads how) : (start.feed bytes).2.filterMap (·.payload?) = payloads := by
  obtain ⟨-, last, told, ends⟩ := h.feed
  have frames : (payloads.map FrameEvent.frame).filterMap (·.payload?) = payloads := by
    rw [List.filterMap_map]
    exact List.filterMap_some (l := payloads)
  have rest : last.filterMap (·.payload?) = [] := by
    split at ends
    · obtain ⟨n, rfl⟩ := ends
      rfl
    · rw [ends]
      rfl
  rw [told, List.filterMap_append, frames, rest, List.append_nil]

/-- `bytes` determine `payloads` and `how`. -/
theorem Framed.unique {bytes : List UInt8} {payloads payloads' : List (List UInt8)}
    {how how' : StreamEnd} (h : Framed bytes payloads how) (h' : Framed bytes payloads' how') :
    payloads = payloads' ∧ how = how' :=
  ⟨h.payloads_eq.symm.trans h'.payloads_eq, h.feed.1.symm.trans h'.feed.1⟩

end Skirmish
