import Skirmish.Command
import Skirmish.Session

/-!
# A session and its peers

`Session` and its clients with message queues. Each `Peer` has a `View`, an `inbox` of notices on
the way to it and an `outbox` of requests on the way from it. Both queues are first in, first out,
and lose nothing; `Correspondence.Move`s come in any order.

* `Peer.join` starts with an `intro` in the `outbox`. After that `Peer.type` adds what `View.route`
  makes of typed lines, and `Peer.read` is `apply` of the oldest notice.
* `Peer.leave` may come at any time. `Correspondence.lose`, which is `disconnect` of the session,
  comes when the `outbox` is empty.
* A `close` among the effects makes its peer `gone` at once.

A move that cannot be made changes nothing.
-/

namespace Skirmish

/-! ## Peers -/

/-- Whether a client takes part. -/
inductive Peer.Stage
  | here
  /-- It has left, but the session has not heard of that yet. -/
  | leaving
  /-- The session no longer serves it. -/
  | gone
deriving DecidableEq, Repr

/-- A client: its view and the two queues between it and the session. -/
structure Peer where
  view : View
  inbox : List Notice := []
  outbox : List Request
  stage : Peer.Stage := .here
deriving DecidableEq, Repr

/-- The notice that an effect has for the connection `id`. -/
def Effect.notice? (id : PlayerId) : Effect → Option Notice
  | .broadcast notice => some notice
  | .unicast recipient notice => if recipient = id then some notice else none
  | .close _ => none

/-- The notices that effects have for the connection `id`, in order. -/
def noticesFor (id : PlayerId) (effects : List Effect) : List Notice :=
  effects.filterMap (·.notice? id)

namespace Peer

/-- A client that has just connected: `View.connected`, with its introduction under way. -/
def join (name : String) (ready : Bool) : Peer :=
  { view := (View.new name).connected, outbox := [.intro name ready] }

/-- `View.route` on a line. A request that is to be sent goes into the `outbox`. Only `here`. -/
def type (p : Peer) (line : String) : Peer :=
  if p.stage = .here then
    match p.view.route line with
    | .ok (.send r, view) => { p with view, outbox := p.outbox ++ [r] }
    | .ok (_, view) => { p with view }
    | .error _ => p
  else p

/-- `View.apply` on the oldest notice of the `inbox`. Only `here`. -/
def read (p : Peer) : Peer :=
  if p.stage = .here then
    match p.inbox with
    | n :: rest => { p with view := (p.view.apply n).1, inbox := rest }
    | [] => p
  else p

/-- From `here` to `leaving`. -/
def leave (p : Peer) : Peer :=
  if p.stage = .here then { p with stage := .leaving } else p

/-- The notices for `id` go into the `inbox`, and a `close` for `id` makes the peer `gone`. Nothing
if it is `gone` already. -/
def receive (p : Peer) (id : PlayerId) (effects : List Effect) : Peer :=
  if p.stage = .gone then p
  else
    { p with
      inbox := p.inbox ++ noticesFor id effects
      stage := if .close id ∈ effects then .gone else p.stage }

/-- The client is `here` and its view has `myTurn`. -/
def claimsTurn (p : Peer) : Prop :=
  p.stage = .here ∧ p.view.myTurn = true

end Peer

/-! ## The session and everybody's queues -/

/-- A session with the peers that have connected to it. -/
structure Correspondence (δ : Type) where
  session : Session δ
  peers : PlayerId → Option Peer := fun _ => none

namespace Correspondence

variable {δ : Type}

/-- A session for `expected` players that is `Session.opened`, without peers. -/
def new (expected : Nat) (dice : δ) : Correspondence δ :=
  { session := (Session.new expected dice).opened }

/-- The correspondence with `p` as the peer `id`. -/
def put (c : Correspondence δ) (id : PlayerId) (p : Peer) : Correspondence δ :=
  { c with peers := fun other => if other = id then some p else c.peers other }

/-- `f` on the peer `id`, if there is one. -/
def alter (c : Correspondence δ) (id : PlayerId) (f : Peer → Peer) : Correspondence δ :=
  match c.peers id with
  | some p => c.put id (f p)
  | none => c

/-- The session of `step`, and `Peer.receive` of its effects for every peer. -/
def dispatch (c : Correspondence δ) (step : Session.Step δ) : Correspondence δ where
  session := step.1
  peers id := (c.peers id).map (·.receive id step.2)

/-- One step of a client or of the session. -/
inductive Move
  /-- A peer `join`s as `id`, if there was none of this number before. -/
  | connect (id : PlayerId) (name : String) (ready : Bool)
  | type (id : PlayerId) (line : String)
  | read (id : PlayerId)
  | leave (id : PlayerId)
  /-- `serve`: the session handles the oldest request of a peer. -/
  | serve (id : PlayerId)
  /-- `lose`: the session hears that a peer has left. -/
  | lose (id : PlayerId)
deriving DecidableEq, Repr

variable [Dice δ]

/-- `Session.handle` of the oldest request in the `outbox` of `id`, unless the peer is `gone`. -/
def serve (c : Correspondence δ) (id : PlayerId) : Correspondence δ :=
  match c.peers id with
  | none => c
  | some p =>
    match p.outbox with
    | [] => c
    | r :: rest =>
      if p.stage = .gone then c
      else (c.put id { p with outbox := rest }).dispatch (c.session.handle id r)

/-- `Session.disconnect` of a peer that is `leaving` and whose `outbox` is empty; it is `gone` then.
-/
def lose (c : Correspondence δ) (id : PlayerId) : Correspondence δ :=
  match c.peers id with
  | none => c
  | some p =>
    if p.stage = .leaving ∧ p.outbox = [] then
      (c.put id { p with stage := .gone }).dispatch (c.session.disconnect id)
    else c

/-- One move. `connect` needs a number that is new. -/
def step (c : Correspondence δ) : Move → Correspondence δ
  | .connect id name ready => if c.peers id = none then c.put id (.join name ready) else c
  | .type id line => c.alter id (·.type line)
  | .read id => c.alter id Peer.read
  | .leave id => c.alter id Peer.leave
  | .serve id => c.serve id
  | .lose id => c.lose id

/-- `step` of the moves in order. -/
def run (c : Correspondence δ) (moves : List Move) : Correspondence δ :=
  moves.foldl step c

@[simp] theorem run_concat (c : Correspondence δ) (moves : List Move) (m : Move) :
    c.run (moves ++ [m]) = (c.run moves).step m := by
  simp [run]

end Correspondence

end Skirmish
