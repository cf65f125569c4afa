import Skirmish.Rules

/-!
# Requests and notices

The vocabulary that a client and the server share: jobs, actions, the two phases of a session, and
the two kinds of packet. A `Request` travels from a client to the server, a `Notice` from the
server to clients.

Both phases only ever move forward: `ConnectionPhase.advance` and `GamePhase.advance` keep the
later of two phases.
-/

namespace Skirmish

/-! ## Jobs and actions -/

/-- The job of a player. `Player.join` makes everybody `unassigned`. -/
inductive Job
  | wizard
  | warrior
  | assassin
  | unassigned
deriving DecidableEq, Repr, Inhabited

/-- How `Session.chooseJob` and the client's lines name a job. -/
def Job.title : Job → String
  | .wizard => "Wizard"
  | .warrior => "Warrior"
  | .assassin => "Assassin"
  | .unassigned => "Jobless"

/-- What `Request.act` asks for; `Action.delta` gives the amounts. -/
inductive Action
  | heal
  | healRandom
  | attack
  | attackRandom
deriving DecidableEq, Repr, Inhabited

/-! ## Phases -/

/-- How far a session has come in gathering players, in this order. `Session.opened` leads to
`acceptingConnections`, the first `Session.register` to `lobbyOpen`, and `Session.start` to
`inProgress`. -/
inductive ConnectionPhase
  | initializing
  | acceptingConnections
  | lobbyOpen
  | inProgress
deriving DecidableEq, Repr, Inhabited

/-- How far the game has come, in this order: `pending` until `Session.start`, `characterSelect`
until `Session.startMain`, `main` until `Session.finish`. -/
inductive GamePhase
  | pending
  | characterSelect
  | main
  | gameOver
deriving DecidableEq, Repr, Inhabited

namespace ConnectionPhase

/-- The position of a phase in the order of `ConnectionPhase`. -/
def rank : ConnectionPhase → Nat
  | initializing => 0
  | acceptingConnections => 1
  | lobbyOpen => 2
  | inProgress => 3

instance : Ord ConnectionPhase := ⟨fun a b => compare a.rank b.rank⟩

/-- `advance_connection`: `next` if `current.rank < next.rank`, otherwise `current`. -/
def advance (current next : ConnectionPhase) : ConnectionPhase :=
  if current.rank < next.rank then next else current

@[simp] theorem rank_advance (a b : ConnectionPhase) : (a.advance b).rank = max a.rank b.rank := by
  cases a <;> cases b <;> rfl

end ConnectionPhase

namespace GamePhase

/-- The position of a phase in the order of `GamePhase`. -/
def rank : GamePhase → Nat
  | pending => 0
  | characterSelect => 1
  | main => 2
  | gameOver => 3

instance : Ord GamePhase := ⟨fun a b => compare a.rank b.rank⟩

/-- `advance_game`: `next` if `current.rank < next.rank`, otherwise `current`. -/
def advance (current next : GamePhase) : GamePhase :=
  if current.rank < next.rank then next else current

@[simp] theorem rank_advance (a b : GamePhase) : (a.advance b).rank = max a.rank b.rank := by
  cases a <;> cases b <;> rfl

end GamePhase

/-! ## Packets -/

/-- One row of the roster in `Notice.phaseChanged`, from `Player.snapshot`. -/
structure Snapshot where
  name : String
  health : Int32
  ready : Bool
  job : Job
deriving DecidableEq, Repr, Inhabited

/-- `is_alive` of a snapshot: `0 < s.health`, since a row does not carry `Standing.alive`. -/
def Snapshot.isAlive (s : Snapshot) : Bool :=
  0 < s.health

/-- A packet from a client to the server, as `Session.request` takes it. -/
inductive Request
  /-- The first request of every client: who it is and whether it is ready to play. -/
  | intro (name : String) (ready : Bool)
  | ready
  | unready
  | listPlayers
  | listStats
  | chat (text : String)
  | chooseJob (job : Job)
  | act (action : Action) (target : String)
deriving DecidableEq, Repr, Inhabited

/-- A packet from the server to clients, as `View.hear` takes it. -/
inductive Notice
  | chat (text : String)
  | gameStarted
  /-- Every player with its ready flag, in turn order. -/
  | playerList (players : List (String × Bool))
  /-- Every player with its job and health, in turn order. -/
  | playerStats (players : List (String × Job × Int32))
  /-- `TakeTurn`: the turn is with the client that receives this. -/
  | takeTurn
  /-- The game entered a phase; on entering the main phase the whole roster comes along. -/
  | phaseChanged (phase : GamePhase) (roster : Option (List Snapshot))
  | healthChanged (name : String) (health : Int32)
  | disconnected (reason : String)
deriving DecidableEq, Repr, Inhabited

/-- `server_line`: a `chat` of `text` behind `Rules.serverTag`. -/
def Notice.serverLine (text : String) : Notice :=
  .chat (Rules.serverTag ++ text)

end Skirmish
