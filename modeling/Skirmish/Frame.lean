import Skirmish.Wire.Packet

/-!
# Frames

`read_frame` and `write_packet`. On a stream each packet comes behind its length in four bytes, the
highest first. A `FrameReader` takes the bytes of a stream in portions and gives the payloads that
are complete.

* A length above `Rules.maxPacketBytes` stops the reader for good.
* A payload that does not decode is a payload all the same, and the next frame is read as ever.
* `feed_append`: it does not matter in which portions the bytes come.
-/

namespace Skirmish

/-! ## Writing -/

/-- The length of a payload as four bytes, the highest first. -/
def Frame.header (length : Nat) : List UInt8 :=
  (Wire.littleEndian 4 length).reverse

/-- The header of a payload and then the payload. -/
def Frame.ofPayload (payload : List UInt8) : List UInt8 :=
  Frame.header payload.length ++ payload

/-- `write_packet`: the frame of `Wire.encode packet`, or `Oversized`. -/
def Frame.ofPacket {α : Type} [Wire.Packet α] (packet : α) : Except Wire.Oversized (List UInt8) :=
  (Wire.encode packet).map Frame.ofPayload

/-! ## Reading -/

/-- The state of `read_frame` between two bytes of its stream. -/
inductive FrameReader
  /-- Inside a length, of which fewer than four bytes have come, with the value `length` so far. -/
  | header (seen length : Nat)
  /-- Inside a payload that lacks `missing + 1` bytes. What has come is kept last byte first. -/
  | payload (missing : Nat) (seen : List UInt8)
  /-- Behind a length that was too large. -/
  | stopped
deriving DecidableEq, Repr

/-- What `FrameReader.push` completes: a payload, or a length above `Rules.maxPacketBytes`. -/
inductive FrameEvent
  | frame (payload : List UInt8)
  | oversized (length : Nat)
deriving DecidableEq, Repr

/-- What `read_frame` returns at the end of the stream. -/
inductive StreamEnd
  /-- Before a frame, or inside a length. -/
  | clean
  /-- Inside a payload. -/
  | cutShort
  /-- The reader had stopped before the end. -/
  | stopped
deriving DecidableEq, Repr

namespace FrameReader

/-- The reader before the first byte of a frame. -/
def start : FrameReader := .header 0 0

/-- The reader after one more byte. The fourth byte of a length is checked against
`Rules.maxPacketBytes`; the last byte of a payload completes a frame. -/
def push : FrameReader → UInt8 → FrameReader × List FrameEvent
  | .header seen length, b =>
    let length := length * 256 + b.toNat
    if seen < 3 then (.header (seen + 1) length, [])
    else if Rules.maxPacketBytes < length then (.stopped, [.oversized length])
    else
      match length with
      | 0 => (start, [.frame []])
      | missing + 1 => (.payload missing [], [])
  | .payload 0 seen, b => (start, [.frame (b :: seen).reverse])
  | .payload (missing + 1) seen, b => (.payload missing (b :: seen), [])
  | .stopped, _ => (.stopped, [])

/-- `push` of the bytes in order, with all events. -/
def feed (r : FrameReader) : List UInt8 → FrameReader × List FrameEvent
  | [] => (r, [])
  | b :: rest =>
    let (next, events) := r.push b
    let (last, later) := feed next rest
    (last, events ++ later)

/-- `clean` inside a header, as `read_frame` treats an end of the stream there; `cutShort` inside a
payload. -/
def finish : FrameReader → StreamEnd
  | .header _ _ => .clean
  | .payload _ _ => .cutShort
  | .stopped => .stopped

theorem feed_append (r : FrameReader) (bytes more : List UInt8) :
    r.feed (bytes ++ more) =
      (((r.feed bytes).1.feed more).1, (r.feed bytes).2 ++ ((r.feed bytes).1.feed more).2) := by
  induction bytes generalizing r with
  | nil => rfl
  | cons b rest ih => simp [feed, ih]

end FrameReader

/-! ## Whole streams -/

/-- What a receiver makes of a stream of packets of type `α`. -/
inductive StreamItem (α : Type)
  | packet (p : α)
  | malformed (why : Wire.Malformed)
  | oversized (length : Nat)
  | ended (how : StreamEnd)
deriving DecidableEq, Repr

/-- `Wire.decode` of a payload, or `oversized`. -/
def StreamItem.ofEvent {α : Type} [Wire.Packet α] : FrameEvent → StreamItem α
  | .oversized length => .oversized length
  | .frame payload =>
    match Wire.decode payload with
    | .ok p => .packet p
    | .error why => .malformed why

/-- All items of a stream from its start. The last one is `ended`, unless a length was too large. -/
def readStream {α : Type} [Wire.Packet α] (bytes : List UInt8) : List (StreamItem α) :=
  let (reader, events) := FrameReader.start.feed bytes
  let items := events.map StreamItem.ofEvent
  match reader.finish with
  | .stopped => items
  | how => items ++ [.ended how]

/-- The text of the error for a header with `Rules.maxPacketBytes < length`. -/
def oversizedMessage (length : Nat) : String :=
  "frame of " ++ toString length ++ " bytes exceeds the packet size limit"

/-- The text of the error for an end of the stream inside a payload. -/
def cutShortMessage : String :=
  "connection error: early eof"

end Skirmish
