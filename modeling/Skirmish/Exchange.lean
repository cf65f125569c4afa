import Skirmish.Hub

/-!
# The hub and its readers

Every connection has a `Reader`, the task of `spawn_connection_reader`, which sends `Message`s to
the hub. The hub handles the oldest message of the `mailbox` at a time (`handle_message`); in
between it accepts connections and takes console lines. `Exchange.Move`s come in any order.

* A reader sends `lost` when it comes to its end, and nothing after that.
* When `dispatch` drops the entry of a connection, its reader is aborted and does not send `lost`.
  Messages that it has sent before stay in the `mailbox`.
* When the hub stops, nothing happens any more.
-/

namespace Skirmish

/-- What a connection's reader sends to the hub's mailbox. -/
inductive Exchange.Message
  | received (id : PlayerId) (request : Request)
  | lost (id : PlayerId)
deriving DecidableEq, Repr

/-- The task that `spawn_connection_reader` starts for a connection. -/
structure Exchange.Reader where
  id : PlayerId
  running : Bool := true
deriving DecidableEq, Repr

/-- A hub with the readers of all connections it has accepted, and its mailbox. -/
structure Exchange (δ : Type) where
  hub : Hub δ
  /-- All readers there have been, oldest first. -/
  readers : List Exchange.Reader := []
  /-- What the hub has still to handle, oldest first. -/
  mailbox : List Exchange.Message := []

namespace Exchange

variable {δ : Type}

/-- The event by which the hub handles a message. -/
def Message.event : Message → Hub.Event
  | .received id request => .received id request
  | .lost id => .lost id

/-- `Hub.new` without readers. -/
def new (expected : Nat) (dice : δ) : Exchange δ :=
  { hub := .new expected dice }

/-- `abort` of the last reader with the number `id`, the one in the table of connections: it no
longer runs. -/
def silence (id : PlayerId) : List Reader → List Reader
  | [] => []
  | r :: rest =>
    if r.id = id ∧ rest.all (·.id ≠ id) then { r with running := false } :: rest
    else r :: silence id rest

/-- One step of the hub or of a reader. -/
inductive Move
  | connect
  /-- A reader hears a request. -/
  | hear (reader : Nat) (request : Request)
  /-- A reader comes to its end. -/
  | hangUp (reader : Nat)
  /-- The hub takes a message out of its mailbox. -/
  | serve
  /-- A line is typed at the server. -/
  | console (line : String)
deriving DecidableEq, Repr

/-- The reader of connection `k`, if it is `running`. -/
def reader? (x : Exchange δ) (k : Nat) : Option Reader :=
  x.readers[k]?.filter (·.running)

variable [Dice δ]

/-- `handle_message` of the oldest message. A connection that this takes out of `Hub.held` has its
reader silenced. -/
def serve (x : Exchange δ) : Exchange δ :=
  match x.mailbox with
  | [] => x
  | m :: rest =>
    let hub := (x.hub.step m.event).1
    let readers := match m with
      | .received id _ =>
        if id ∈ x.hub.held ∧ id ∉ hub.held then silence id x.readers else x.readers
      | .lost _ => x.readers
    { hub, readers, mailbox := rest }

/-- One move, given that the hub runs. `hear` and `hangUp` need a reader that is `running`. -/
def act (x : Exchange δ) : Move → Exchange δ
  | .connect =>
    { x with hub := (x.hub.step .connected).1, readers := x.readers ++ [⟨⟨x.hub.nextId⟩, true⟩] }
  | .hear k request =>
    match x.reader? k with
    | some r => { x with mailbox := x.mailbox ++ [.received r.id request] }
    | none => x
  | .hangUp k =>
    match x.reader? k with
    | some r =>
      { x with
        readers := x.readers.set k { r with running := false }
        mailbox := x.mailbox ++ [.lost r.id] }
    | none => x
  | .serve => x.serve
  | .console line => { x with hub := (x.hub.step (.console line)).1 }

/-- `act` while `Hub.running`; nothing after that. -/
def step (x : Exchange δ) (m : Move) : Exchange δ :=
  if x.hub.running then x.act m else x

/-- `step` of the moves in order. -/
def run (x : Exchange δ) (moves : List Move) : Exchange δ :=
  moves.foldl step x

@[simp] theorem run_concat (x : Exchange δ) (moves : List Move) (m : Move) :
    x.run (moves ++ [m]) = (x.run moves).step m := by
  simp [run]

end Exchange

end Skirmish
