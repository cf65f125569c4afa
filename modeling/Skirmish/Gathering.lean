import Skirmish.Correspondence

/-!
# A session and its clients at rest

`Session` and the `View`s of its clients, without queues: each `Gathering.Event` is handled by the
session, and every view takes in its notices (`noticesFor`), before the next event.

* `connect`: a client connects and sends an `intro` that is not ready.
* `type`: `View.route` of a line, and `Session.handle` of the request it leads to.
* `leave`: `Session.disconnect`.

A `close` among the effects takes away the view of its client. An event for a client that is not
there changes nothing.
-/

namespace Skirmish

/-- A session and the view of each connected client; `none` where nobody is connected. -/
@[ext] structure Gathering (δ : Type) where
  session : Session δ
  views : PlayerId → Option View := fun _ => none

/-- A thing that a client does. -/
inductive Gathering.Event
  /-- A client connects as `id`, if that has no view, and sends `intro name false`. -/
  | connect (id : PlayerId) (name : String)
  | type (id : PlayerId) (line : String)
  | leave (id : PlayerId)
deriving DecidableEq, Repr

namespace Gathering

variable {δ : Type}

/-- A session for `expected` players that is `Session.opened`, without clients. -/
def new (expected : Nat) (dice : δ) : Gathering δ :=
  { session := (Session.new expected dice).opened }

/-- The gathering with `v` as the view of `id`. -/
def put (g : Gathering δ) (id : PlayerId) (v : Option View) : Gathering δ :=
  { g with views := fun other => if other = id then v else g.views other }

/-- The session of `step`. Every client takes in the `noticesFor` it, unless it is closed: then it
is gone. -/
def dispatch (g : Gathering δ) (step : Session.Step δ) : Gathering δ where
  session := step.1
  views id :=
    if .close id ∈ step.2 then none
    else (g.views id).map (·.hearAll (noticesFor id step.2))

variable [Dice δ]

/-- One event: `Session.handle` for an introduction and for a request that `View.route` makes of a
line, `Session.disconnect` for a client that leaves. Nothing if `connect` meets a view at `id`, or
the other events meet none. -/
def step (g : Gathering δ) : Event → Gathering δ
  | .connect id name =>
    match g.views id with
    | some _ => g
    | none =>
      (g.put id (some (View.new name).connected)).dispatch
        (g.session.handle id (.intro name false))
  | .type id line =>
    match g.views id with
    | none => g
    | some v =>
      match v.route line with
      | .ok (.send r, w) => (g.put id (some w)).dispatch (g.session.handle id r)
      | .ok (_, w) => g.put id (some w)
      | .error _ => g
  | .leave id =>
    match g.views id with
    | none => g
    | some _ => (g.put id none).dispatch (g.session.disconnect id)

/-- `step` of the events in order. -/
def run (g : Gathering δ) (events : List Event) : Gathering δ :=
  events.foldl step g

@[simp] theorem run_concat (g : Gathering δ) (events : List Event) (e : Event) :
    g.run (events ++ [e]) = (g.run events).step e := by
  simp [run]

end Gathering

end Skirmish
