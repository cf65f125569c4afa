import Skirmish.Hub
import Skirmish.Wire.Packet

/-!
# The hub and its writers

Every connection has an `Outbox`: the queue that the hub puts notices into, and the writer that
takes them out at its own pace.

* `Outbox.take` is the hub's side. It queues a notice exactly if the connection is held and its
  writer still runs. The hub does not learn that a writer has ended: `Hub.held` keeps the
  connection, and what `Hub.dispatch` and `Hub.shutdown` have for it is dropped.
* `Outbox.write` is the writer's side. The writer ends at a notice that `Wire.encode` refuses or
  that the stream does not take. Nothing else ends it while something is queued, and it never runs
  again.

The connections are held in a table, and whenever the hub goes through it they may come in another
order (`Office.Runs`). Writers may write at any time, also after the hub has stopped.
-/

namespace Skirmish

/-- The queue of one connection and the task that `spawn_connection_writer` starts for it. -/
structure Outbox where
  id : PlayerId
  /-- Whether the entry is still in `connections`. -/
  isOpen : Bool := true
  /-- All that has been queued, oldest first. -/
  queued : List Notice := []
  /-- How many of these the writer has taken out. -/
  taken : Nat := 0
  /-- Whether the writer still runs, so that `packet_tx.send` is not an error. -/
  served : Bool := true
deriving DecidableEq, Repr

namespace Outbox

/-- What a delivery means for an outbox. A notice for its connection is queued if `isOpen` and
`served`, else it is dropped. -/
def take (o : Outbox) : Delivery → Outbox
  | .send recipient notice =>
    if o.isOpen ∧ o.served ∧ recipient = o.id then { o with queued := o.queued ++ [notice] } else o
  | .finish id => if id = o.id then { o with isOpen := false } else o

/-- `Outbox.write` for connection `k`. The hub stays as it is. -/
def write (o : Outbox) (through : Bool) : Outbox :=
  if o.served then
    match o.queued[o.taken]? with
    | none => o
    | some notice =>
      match Wire.encode notice with
      | .ok _ => { o with taken := o.taken + 1, served := through }
      | .error _ => { o with taken := o.taken + 1, served := false }
  else o

/-- `accept_connection`: one more outbox. An earlier outbox of the same number is no longer held. -/
def accept (boxes : List Outbox) (id : PlayerId) : List Outbox :=
  boxes.map (·.take (.finish id)) ++ [{ id := id }]

end Outbox

/-- A hub with the outboxes of all connections it has accepted, oldest first; `outboxes[k]?` is that
of connection `k`. -/
structure Office (δ : Type) where
  hub : Hub δ
  outboxes : List Outbox := []

namespace Office

/-- An event of the hub, or a turn of the writer of connection `k`, for which the stream takes the
notice if `through`. -/
inductive Move
  | event (event : Hub.Event)
  | write (k : Nat) (through : Bool)
deriving DecidableEq, Repr

variable {δ : Type}

/-- `Hub.new` without outboxes. -/
def new (expected : Nat) (dice : δ) : Office δ :=
  { hub := .new expected dice }

/-- A writer writes the next notice. The hub has no part in that. -/
def write (x : Office δ) (k : Nat) (through : Bool) : Office δ :=
  { x with outboxes := x.outboxes.modify k (·.write through) }

variable [Dice δ]

/-- `Hub.step` while the table of connections is in the order `order`. Its deliveries go through
`Outbox.take` of every outbox. -/
def step (x : Office δ) (order : List PlayerId) (event : Hub.Event) : Office δ :=
  let (hub, deliveries) := { x.hub with held := order }.step event
  let outboxes := match event with
    | .connected => if x.hub.running then Outbox.accept x.outboxes ⟨x.hub.nextId⟩ else x.outboxes
    | _ => x.outboxes
  { hub, outboxes := outboxes.map (deliveries.foldl Outbox.take ·) }

/-- `x.Runs moves y`: the moves lead from `x` to `y`, if for each event the table of connections may
be in any `order` of `Hub.held`. -/
inductive Runs (x : Office δ) : List Move → Office δ → Prop
  | start : Runs x [] x
  | step {moves : List Move} {y : Office δ} (runs : Runs x moves y) {order : List PlayerId}
      (any : order.Perm y.hub.held) (event : Hub.Event) :
      Runs x (moves ++ [.event event]) (y.step order event)
  | write {moves : List Move} {y : Office δ} (runs : Runs x moves y) (k : Nat) (through : Bool) :
      Runs x (moves ++ [.write k through]) (y.write k through)

/-- `step` in the order of `Hub.held`, or `write`. -/
def move (x : Office δ) : Move → Office δ
  | .event event => x.step x.hub.held event
  | .write k through => x.write k through

/-- `move` of the moves in order; one of the ends that `Runs` allows. -/
def run (x : Office δ) (moves : List Move) : Office δ :=
  moves.foldl move x

end Office

end Skirmish
