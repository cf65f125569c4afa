import Skirmish.Command
import Skirmish.Frame
import Skirmish.Text.Split

/-!
# A client at work

`Client`: `new` sends the `intro`, and `run` shows the instructions and then waits for bytes of the
server, a typed line, or the end of either (`Terminal.Event`).

`run` returns when `.quit` is typed, the input ends, or the server closes the connection. It also
returns, with an error, when a line leads to a request that `Wire.encode` refuses.
-/

namespace Skirmish

/-- Whether `run` of the client goes on, has returned, or has returned an error. -/
inductive Terminal.Status
  | running
  /-- It has ended as it should. -/
  | ended
  /-- It has ended because of a request that could not be sent. -/
  | failed (why : Wire.Oversized)
deriving DecidableEq, Repr

/-- `Client`: its mirror and the reader of its stream. -/
structure Terminal where
  view : View
  reader : FrameReader := .start
  status : Terminal.Status := .running
deriving DecidableEq, Repr

namespace Terminal

/-- What `run` of the client waits for. -/
inductive Event
  | typed (line : String)
  /-- The input channel `lines` is closed. -/
  | inputEnds
  | bytes (bytes : List UInt8)
  /-- The server closes the connection: `packet_rx` is closed. -/
  | hangUp
deriving DecidableEq, Repr

/-- What the client does in one step. -/
structure Output where
  /-- The lines that `show` prints. -/
  shown : List String := []
  /-- The requests that `send_packet` writes. -/
  sent : List Request := []
  /-- Whether it closes the connection after that, the server not having done so. -/
  closes : Bool := false
deriving DecidableEq, Repr

/-- The lines and requests of `a` and then those of `b`; `closes` if either does. -/
def Output.append (a b : Output) : Output :=
  ⟨a.shown ++ b.shown, a.sent ++ b.sent, a.closes || b.closes⟩

instance : Append Output := ⟨Output.append⟩

/-- What `run` shows at the end of the stream. -/
def closedLine : String := "Connection to the server closed."

/-- `new` and the beginning of `run`: the introduction is sent and the instructions are shown,
unless the name is too long for a packet. -/
def start (name : String) : Except Wire.Oversized (Terminal × Output) :=
  let view := (View.new name).connected
  let intro : Request := .intro name view.me.ready
  match Wire.encode intro with
  | .ok _ => .ok ({ view }, { shown := view.instructions, sent := [intro] })
  | .error why => .error why

/-- The end of `run` at which the client closes the connection. -/
def leave (t : Terminal) : Terminal × Output :=
  ({ t with status := .ended }, { closes := true })

/-- `handle_line`: `View.route`, and then what the intent says. A request that `Wire.encode` refuses
is an error that ends the client. An unknown command shows the instructions as well. -/
def type (t : Terminal) (line : String) : Terminal × Output :=
  match t.view.route line with
  | .ok (intent, view) =>
    let t := { t with view }
    match intent with
    | .send request =>
      match Wire.encode request with
      | .ok _ => (t, { sent := [request] })
      | .error why => ({ t with status := .failed why }, {})
    | .display lines => (t, { shown := lines })
    | .quit => t.leave
    | .nothing => (t, {})
  | .error (.unknownCommand word) =>
    (t, { shown := (InputError.unknownCommand word).message :: t.view.instructions })
  | .error why => (t, { shown := [why.message] })

/-- What the packet reader makes of frames: a frame that `Wire.decode` refuses is skipped, and a
length that is too large ends the client. -/
def hearFrames (t : Terminal) : List FrameEvent → Terminal × Output
  | [] => (t, {})
  | .oversized _ :: _ =>
    let (t, out) := t.leave
    (t, { shown := [closedLine] } ++ out)
  | .frame payload :: rest =>
    match (Wire.decode payload : Except Wire.Malformed Notice) with
    | .ok notice =>
      let (view, lines) := t.view.apply notice
      let (last, out) := { t with view }.hearFrames rest
      (last, { shown := lines } ++ out)
    | .error _ => t.hearFrames rest

/-- One event: `type` for a line, `FrameReader.feed` and `hearFrames` for bytes, and the end of the
client for either end. -/
def handle (t : Terminal) : Event → Terminal × Output
  | .typed line => t.type line
  | .inputEnds => t.leave
  | .bytes bytes =>
    let (reader, events) := t.reader.feed bytes
    { t with reader }.hearFrames events
  | .hangUp => ({ t with status := .ended }, { shown := [closedLine] })

/-- `handle` while the status is `running`; nothing after that. -/
def step (t : Terminal) (event : Event) : Terminal × Output :=
  if t.status = .running then t.handle event else (t, {})

/-- `step` of the events in order, with the output of each. -/
def run (t : Terminal) : List Event → Terminal × List Output
  | [] => (t, [])
  | event :: rest =>
    let (next, out) := t.step event
    let (last, outs) := next.run rest
    (last, out :: outs)

end Terminal

end Skirmish
