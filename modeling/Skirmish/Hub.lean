import Skirmish.Session

/-!
# The hub

`Server` owns the session and the table of connections, `Hub.held`. Its loop `run` handles one
`Event` at a time, and `Delivery` is what it hands to the queues of connections.

* A `broadcast` goes to every connection in `held`, whether or not it has a player.
* A `close` takes its connection out of `held` without `Session.disconnect`. Requests of that
  connection that are handled later are dropped.
* `lost` also takes its connection out of `held`, and is `Session.disconnect` of its player.
* A console line `.quit` is `shutdown`: `Hub.goodbye` to every connection in `held`, and the hub
  stops.
-/

namespace Skirmish

/-- `Server`: the session and the keys of its table of connections. -/
structure Hub (δ : Type) where
  session : Session δ
  /-- The connections that are held, oldest first. -/
  held : List PlayerId := []
  /-- The number of the next connection. -/
  nextId : UInt32 := 1
  /-- Whether the loop of `run` still handles events. -/
  running : Bool := true

/-- What `Hub.dispatch` hands to the queue of a connection. -/
inductive Delivery
  | send (recipient : PlayerId) (notice : Notice)
  /-- The entry is dropped: nothing follows, and the writer ends once its queue is written. -/
  | finish (id : PlayerId)
deriving DecidableEq, Repr

namespace Hub

/-- What the loop of the server, `run`, waits for; `received` and `lost` are its messages. -/
inductive Event
  /-- `listener.accept` gives a stream. -/
  | connected
  /-- `PacketReceived`: a request of `id` arrives. -/
  | received (id : PlayerId) (request : Request)
  /-- `Disconnected`: the reader of `id` has ended. -/
  | lost (id : PlayerId)
  /-- `console.recv` gives a line. -/
  | console (line : String)
deriving DecidableEq, Repr

variable {δ : Type}

/-- The state after `bind`: no connections, and an open session for `expected` players. -/
def new (expected : Nat) (dice : δ) : Hub δ :=
  { session := (Session.new expected dice).opened }

/-- `QUIT_COMMAND`. -/
def quitWord : List Char := ".quit".toList

/-- What `shutdown` sends to every connection. -/
def goodbye : Notice := .disconnected "Server shutting down"

/-- The table of connections with `id` in it. An `id` that is in it already keeps its place. -/
def hold (held : List PlayerId) (id : PlayerId) : List PlayerId :=
  if id ∈ held then held else held ++ [id]

/-- One effect in `dispatch`: a `broadcast` for every connection in `held`, a `unicast` if its
recipient is in `held`, and a `close` that takes its connection out of `held`. -/
def perform (held : List PlayerId) : Effect → List PlayerId × List Delivery
  | .broadcast notice => (held, held.map (.send · notice))
  | .unicast recipient notice => (held, if recipient ∈ held then [.send recipient notice] else [])
  | .close id => (held.erase id, if id ∈ held then [.finish id] else [])

/-- `perform` of the effects in order, each with the connections that the one before has left. -/
def performAll (held : List PlayerId) : List Effect → List PlayerId × List Delivery
  | [] => (held, [])
  | effect :: rest =>
    let (kept, now) := perform held effect
    let (last, later) := performAll kept rest
    (last, now ++ later)

/-- `dispatch`: the session of `step`, and `performAll` of its effects. -/
def dispatch (h : Hub δ) (step : Session.Step δ) : Hub δ × List Delivery :=
  let (held, deliveries) := performAll h.held step.2
  ({ h with session := step.1, held }, deliveries)

/-- `shutdown`: `goodbye` and the end for every connection in `held`; the hub no longer runs. -/
def shutdown (h : Hub δ) : Hub δ × List Delivery :=
  ({ h with held := [], running := false },
    h.held.flatMap fun id => [.send id goodbye, .finish id])

/-- `accept_connection`, `handle_message` and `handle_console`. A request is handled if its
connection is in `held`. A lost connection is taken out of `held` before `Session.disconnect` is
dispatched. A trimmed console line is `quitWord` in any ASCII case, or else goes to
`Session.serverChat`. -/
def handle [Dice δ] (h : Hub δ) : Event → Hub δ × List Delivery
  | .connected => ({ h with held := hold h.held ⟨h.nextId⟩, nextId := h.nextId + 1 }, [])
  | .received id request =>
    if id ∈ h.held then h.dispatch (h.session.handle id request) else (h, [])
  | .lost id =>
    let (next, deliveries) :=
      { h with held := h.held.erase id }.dispatch (h.session.disconnect id)
    (next, if id ∈ h.held then .finish id :: deliveries else deliveries)
  | .console line =>
    let said := Text.trim line.toList
    if said.map Char.toLower = quitWord then h.shutdown
    else h.dispatch (h.session, Session.serverChat (.ofList said))

/-- `handle` while `running`; nothing after `shutdown`. -/
def step [Dice δ] (h : Hub δ) (event : Event) : Hub δ × List Delivery :=
  if h.running then h.handle event else (h, [])

/-- `step` of the events in order, with all deliveries one behind the other. -/
def run [Dice δ] (h : Hub δ) : List Event → Hub δ × List Delivery
  | [] => (h, [])
  | event :: rest =>
    let (next, now) := h.step event
    let (last, later) := next.run rest
    (last, now ++ later)

end Hub

end Skirmish
