import Skirmish.Frame

/-!
# Listening to one connection

`spawn_connection_reader`. A `Listener` takes the bytes of one connection in portions and gives its
requests in order, and `lost` once at the end.

* A payload that does not decode is passed over, and the frames behind it are read.
* A length above `Rules.maxPacketBytes` is `lost`, like the end of the stream.
* `hear_append`: it does not matter in which portions the bytes come.
-/

namespace Skirmish

/-- What a connection's reader sends to the hub. -/
inductive Heard
  | request (r : Request)
  /-- The connection has come to an end by itself. -/
  | lost
deriving DecidableEq, Repr

/-- The request in a frame; nothing for a frame that `Wire.decode` refuses; `lost` for a length that
is too large. -/
def Heard.ofEvent : FrameEvent → List Heard
  | .oversized _ => [.lost]
  | .frame payload =>
    match Wire.decode payload with
    | .ok r => [.request r]
    | .error _ => []

/-- The loop of `spawn_connection_reader`, between two portions of bytes. -/
inductive Listener
  | listening (reader : FrameReader)
  /-- The loop has ended. -/
  | done
deriving DecidableEq, Repr

namespace Listener

/-- A reader at the start of its stream. -/
def start : Listener := .listening .start

/-- `FrameReader.feed` and `Heard.ofEvent`. The listener is `done` once the reader has `stopped`. -/
def hear : Listener → List UInt8 → Listener × List Heard
  | .done, _ => (.done, [])
  | .listening reader, bytes =>
    let (reader, events) := reader.feed bytes
    (if reader = .stopped then .done else .listening reader, events.flatMap Heard.ofEvent)

/-- The end of the stream, inside a frame or not: `lost`, unless the listener is `done`. -/
def hearEnd : Listener → Listener × List Heard
  | .done => (.done, [])
  | .listening _ => (.done, [.lost])

theorem feed_stopped (bytes : List UInt8) : FrameReader.stopped.feed bytes = (.stopped, []) := by
  induction bytes with
  | nil => rfl
  | cons b rest ih => simp [FrameReader.feed, FrameReader.push, ih]

theorem hear_append (l : Listener) (bytes more : List UInt8) :
    l.hear (bytes ++ more) =
      (((l.hear bytes).1.hear more).1, (l.hear bytes).2 ++ ((l.hear bytes).1.hear more).2) := by
  cases l with
  | done => rfl
  | listening reader =>
    simp only [hear, FrameReader.feed_append, List.flatMap_append]
    by_cases h : (reader.feed bytes).1 = .stopped
    · simp [h, feed_stopped]
    · simp [h]

end Listener

end Skirmish
