import Skirmish.Command
import Skirmish.Hub
import Skirmish.Link
import Skirmish.Listener

/-!
# A hub with its guests

`Hub` together with all `Guest`s that have connected to it and the two streams of each. One `Move`
is made at a time, and all that follows from it happens before the next.

* The bytes that a guest sends go through its `Listener`, and the hub handles the requests in order.
* `Guest.receive` renders `spawn_connection_writer`. A notice that `Wire.encode` refuses ends the
  writer: the guest sees its stream closed, while the connection stays in `Hub.held` and its
  requests go on to be handled.
* What a connection outside `Hub.held` sends is dropped.
-/

namespace Skirmish

/-- A connection from both ends: its client, the server's reader of it, and the server's writer to
it. -/
structure Guest where
  id : PlayerId
  /-- What it believes about the session, if it keeps track. -/
  view : Option View
  /-- The hub's end of what it sends. -/
  listener : Listener := .start
  /-- Whether its writer still runs: `Guest.receive` drops what comes for it otherwise. -/
  served : Bool := true
  /-- Whether it has not left. -/
  present : Bool := true
deriving DecidableEq, Repr

/-- What comes out of a guest's end of the stream. -/
inductive Receipt
  /-- A notice, with the lines that it is shown as if the guest keeps a view. -/
  | notice (n : Notice) (lines : Option (List String))
  /-- The end of the stream. -/
  | closed
deriving DecidableEq, Repr

namespace Guest

/-- A notice reaches a guest: `View.apply` if it keeps a view, nothing if it has gone. -/
def take (g : Guest) (notice : Notice) : Guest × List Receipt :=
  if g.present then
    match g.view with
    | none => (g, [.notice notice none])
    | some v =>
      let (v, lines) := v.apply notice
      ({ g with view := some v }, [.notice notice (some lines)])
  else (g, [])

/-- The writer ends. A guest that is present sees that once. -/
def endStream (g : Guest) : Guest × List Receipt :=
  ({ g with served := false }, if g.served && g.present then [.closed] else [])

/-- A delivery to the queue of a guest: a notice that `Wire.encode` takes is read at once, any other
one ends the writer; `finish` also ends the listener. -/
def receive (g : Guest) : Delivery → Guest × List Receipt
  | .send recipient notice =>
    if recipient = g.id ∧ g.served then
      match Wire.encode notice with
      | .ok _ => g.take notice
      | .error _ => g.endStream
    else (g, [])
  | .finish id => if id = g.id then { g with listener := .done }.endStream else (g, [])

end Guest

/-- A hub with all guests there have been, oldest first. -/
structure Arena (δ : Type) where
  hub : Hub δ
  guests : List Guest := []
  /-- Whether lines typed at the server still get through. -/
  consoleOpen : Bool := true

namespace Arena

variable {δ : Type}

/-- The receipts of a move, each with the connection it came to. -/
abbrev Post := List (PlayerId × Receipt)

/-- `Hub.new` without guests. -/
def new (expected : Nat) (dice : δ) : Arena δ :=
  { hub := .new expected dice }

/-- The first guest with the number `id`. -/
def guest? (a : Arena δ) (id : PlayerId) : Option Guest :=
  a.guests.find? (·.id = id)

/-- `f` on the guests with the number `id`. -/
def setGuest (a : Arena δ) (id : PlayerId) (f : Guest → Guest) : Arena δ :=
  { a with guests := a.guests.map fun g => if g.id = id then f g else g }

/-- `Guest.receive` for every guest. -/
def deliver (a : Arena δ) (delivery : Delivery) : Arena δ × Post :=
  let outcomes := a.guests.map (·.receive delivery)
  ({ a with guests := outcomes.map (·.1) },
    outcomes.flatMap fun (g, receipts) => receipts.map (g.id, ·))

/-- `deliver` of the deliveries in order. -/
def deliverAll (a : Arena δ) : List Delivery → Arena δ × Post
  | [] => (a, [])
  | delivery :: rest =>
    let (next, now) := a.deliver delivery
    let (last, later) := next.deliverAll rest
    (last, now ++ later)

variable [Dice δ]

/-- `Hub.step`, and its deliveries to the guests. -/
def happen (a : Arena δ) (event : Hub.Event) : Arena δ × Post :=
  let (hub, deliveries) := a.hub.step event
  { a with hub }.deliverAll deliveries

/-- `happen` for what a listener heard, in order. The rest is dropped once `id` is no longer in
`Hub.held`. -/
def handleHeard (a : Arena δ) (id : PlayerId) : List Heard → Arena δ × Post
  | [] => (a, [])
  | .lost :: _ => a.happen (.lost id)
  | .request request :: rest =>
    let (next, now) := a.happen (.received id request)
    if id ∈ next.hub.held then
      let (last, later) := next.handleHeard id rest
      (last, now ++ later)
    else (next, now)

/-- `f` on the listener of `id`, and `handleHeard` of what it hears. -/
def listen (a : Arena δ) (id : PlayerId) (f : Listener → Listener × List Heard) : Arena δ × Post :=
  match a.guest? id with
  | none => (a, [])
  | some g =>
    let (listener, heard) := f g.listener
    (a.setGuest id ({ · with listener })).handleHeard id heard

/-- `Listener.hear` on the bytes that `id` sends. -/
def hear (a : Arena δ) (id : PlayerId) (bytes : List UInt8) : Arena δ × Post :=
  a.listen id (·.hear bytes)

/-- `Listener.hearEnd` at the end of what `id` sends. -/
def hearEnd (a : Arena δ) (id : PlayerId) : Arena δ × Post :=
  a.listen id Listener.hearEnd

/-! ## Moves -/

/-- A thing that guests or the console do. -/
inductive Move
  /-- A guest connects; it keeps a `view` if `name` is given. -/
  | connect (name : Option String)
  | send (id : PlayerId) (request : Request)
  | raw (id : PlayerId) (bytes : List UInt8)
  /-- A guest with a view types a line. -/
  | line (id : PlayerId) (text : String)
  /-- A guest ends its stream but stays. -/
  | shut (id : PlayerId)
  /-- A guest goes away. -/
  | leave (id : PlayerId)
  | console (text : String)
  | consoleEnds
deriving DecidableEq, Repr

/-- What is known of a move before its receipts. -/
inductive Answer
  | nothing
  | connection (id : PlayerId)
  | intent (i : Intent)
  | refused (why : InputError)
  | unsendable (why : Wire.Oversized)
  /-- The guest has gone away before. -/
  | gone
  /-- The hub has stopped before. -/
  | stopped
deriving DecidableEq, Repr

/-- The answer to a move, the arena after it and its receipts. -/
abbrev Outcome (δ : Type) := Answer × Arena δ × Post

/-- The frame of a request through `hear`; `unsendable` if `Wire.encode` refuses it. -/
def sendRequest (a : Arena δ) (id : PlayerId) (request : Request) (answer : Answer) : Outcome δ :=
  match Frame.ofPacket request with
  | .ok bytes => (answer, a.hear id bytes)
  | .error why => (.unsendable why, a, [])

/-- `View.route` in the view of the guest. A request that is to be sent goes through `sendRequest`.
-/
def typeLine (a : Arena δ) (id : PlayerId) (v : View) (text : String) : Outcome δ :=
  match v.route text with
  | .error why => (.refused why, a, [])
  | .ok (intent, v) =>
    let a := a.setGuest id ({ · with view := some v })
    match intent with
    | .send request => a.sendRequest id request (.intent intent)
    | _ => (.intent intent, a, [])

/-- `act` on the guest `id`, or `gone` if there is none that is present. -/
def guestMove (a : Arena δ) (id : PlayerId) (act : Guest → Outcome δ) : Outcome δ :=
  match a.guest? id with
  | some g => if g.present then act g else (.gone, a, [])
  | none => (.gone, a, [])

/-- One move, given that the hub runs. -/
def move (a : Arena δ) : Move → Outcome δ
  | .connect name =>
    let id : PlayerId := ⟨a.hub.nextId⟩
    let guest : Guest := { id, view := name.map fun n => (View.new n).connected }
    (.connection id, { a with guests := a.guests ++ [guest] }.happen .connected)
  | .send id request => a.guestMove id fun _ => a.sendRequest id request .nothing
  | .raw id bytes => a.guestMove id fun _ => (.nothing, a.hear id bytes)
  | .line id text => a.guestMove id fun g =>
    match g.view with
    | some v => a.typeLine id v text
    | none => (.intent .nothing, a, [])
  | .shut id => a.guestMove id fun _ => (.nothing, a.hearEnd id)
  | .leave id => a.guestMove id fun _ =>
    (.nothing, (a.setGuest id ({ · with present := false })).hearEnd id)
  | .console text => (.nothing, if a.consoleOpen then a.happen (.console text) else (a, []))
  | .consoleEnds => (.nothing, { a with consoleOpen := false }, [])

/-! ## Runs -/

/-- What a run of moves shows. -/
structure Report (δ : Type) where
  /-- Each move's answer, and what guests got. -/
  steps : List (Answer × Post)
  /-- What guests got when the hub was stopped in the end, and the session after that. There is
  none when the console is gone, because then the hub cannot be stopped. -/
  last : Option (Post × Session δ)

/-- `quitWord` at the console, if that is open: the receipts and the session at the end. -/
def stop (a : Arena δ) : Option (Post × Session δ) :=
  if a.consoleOpen then
    let (a, post) := a.happen (.console (.ofList Hub.quitWord))
    some (post, a.hub.session)
  else none

/-- `move` of the moves in order while the hub runs, and `stop` in the end. The first `connect`
without a link is an error. -/
def run (link : Link) (a : Arena δ) : List Move → Except ConnectFailure (Report δ)
  | [] => .ok ⟨[], a.stop⟩
  | m :: rest =>
    if a.hub.running then
      match m, link with
      | .connect _, .down => .error .unreachable
      | _, _ =>
        let (answer, next, post) := a.move m
        match run link next rest with
        | .ok report => .ok { report with steps := (answer, post) :: report.steps }
        | .error why => .error why
    else
      match run link a rest with
      | .ok report => .ok { report with steps := (.stopped, []) :: report.steps }
      | .error why => .error why

end Arena

end Skirmish
