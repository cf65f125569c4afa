import Skirmish.Packet

/-!
# The view of one client

`ClientMirror`: the state of the session as one client has it from notices. It is used to check
typed lines before they are sent (`View.route`) and to show things.

`View.apply` takes in a notice and gives the lines to show. `advance_connection` and `advance_game`
ignore an earlier phase.
-/

namespace Skirmish

/-- `ClientMirror`: what a client knows of the session from the notices it got and from what was
typed. -/
structure View where
  /-- The client's own player. -/
  me : Snapshot
  /-- All players in turn order, from the main phase on. -/
  roster : List Snapshot := []
  connection : ConnectionPhase := .initializing
  game : GamePhase := .pending
  /-- `my_turn`: set by `takeTurn`; cleared by a job, an action, `gameOver` and `disconnected`. -/
  myTurn : Bool := false
deriving DecidableEq, Repr, Inhabited

namespace View

/-- `new` of a mirror: the own player has `Rules.startingHealth` and no job, and the roster is
empty. -/
def new (name : String) : View :=
  { me := { name, health := Rules.startingHealth, ready := false, job := .unassigned } }

/-- `in_lobby`: the connection phase is `lobbyOpen`. -/
def inLobby (v : View) : Bool :=
  v.connection = .lobbyOpen

/-- `in_progress`: the connection phase is `inProgress`. -/
def inProgress (v : View) : Bool :=
  v.connection = .inProgress

/-! ## What the client does itself -/

/-- `connected`: the connection phase is at least `lobbyOpen`. -/
def connected (v : View) : View :=
  { v with connection := v.connection.advance .lobbyOpen }

/-- `set_ready` of a mirror: the own `ready` flag, before the server answers. -/
def setReady (v : View) (ready : Bool) : View :=
  { v with me := { v.me with ready } }

/-- `choose_job` of a mirror: the own job and `ready`, and the turn is spent. -/
def chooseJob (v : View) (job : Job) : View :=
  { v with me := { v.me with job, ready := true }, myTurn := false }

/-- `end_turn`: the turn is spent. -/
def endTurn (v : View) : View :=
  { v with myTurn := false }

/-- `living_player`: the first row of the roster with this name and `0 < health`. -/
def living? (v : View) (name : String) : Option Snapshot :=
  v.roster.find? fun p => p.name = name && p.isAlive

/-! ## What the client shows -/

/-- `instructions`: the commands of the phase, as `route` knows them. -/
def instructions (v : View) : List String :=
  let lines :=
    if v.inProgress then
      match v.game with
      | .characterSelect =>
        ["Select a character.", "1. .wizard", "2. .warrior", "3. .assassin",
          "For example: .1 or .wizard"]
      | .main =>
        ["Select an action.", "1. .heal (10)", "2. .healrng (5~15)", "3. .atk (12)",
          "4. .atkrng (6~18)", ".stats/.localstats", "For example: .1 me or .4 Bob"]
      | .pending | .gameOver => [".stats", ".localstats", ".whoami"]
    else ["You can either...", ".ready", ".notready", ".players", ".whoami"]
  lines ++ [".help/.quit"]

/-- One line of `localStats` and of `Notice.playerStats`. -/
def statsLine (name : String) (job : Job) (health : Int32) : String :=
  name ++ " The " ++ job.title ++ " has " ++ toString health.toInt ++ " health"

/-- `local_stats`: a heading and the `statsLine` of every row of the roster. -/
def localStats (v : View) : List String :=
  "Local player stats:" :: v.roster.map fun p => statsLine p.name p.job p.health

/-- Each line behind its number, from 1 on. -/
def numbered (lines : List String) : List String :=
  lines.zipIdx.map fun (line, i) => toString (i + 1) ++ ". " ++ line

/-! ## Notices -/

/-- The rows with `health` in the first one of that name. -/
def withHealth (name : String) (health : Int32) : List Snapshot → List Snapshot
  | [] => []
  | p :: rest =>
    if p.name = name then { p with health } :: rest else p :: withHealth name health rest

/-- `update_health`: `health` in the first row of that name, and in the own player if it has that
name. There is a line if such a row exists, and one more if the own player has no health left. -/
def updateHealth (v : View) (name : String) (health : Int32) : View × List String :=
  let ofRoster :=
    if v.roster.any (·.name = name) then
      if 0 < health then [name ++ " is now at " ++ toString health.toInt ++ " health"]
      else [name ++ " is dead"]
    else []
  let mine := v.me.name = name
  let ofMe := if mine ∧ health ≤ 0 then ["You are dead."] else []
  ({ v with
      roster := withHealth name health v.roster
      me := if mine then { v.me with health } else v.me },
    ofRoster ++ ofMe)

/-- The `phaseChanged` case of `apply`: the phase is at least `phase`. A roster that comes along
replaces the old one, and its first row of the own name replaces the own player. `gameOver` ends the
turn. -/
def enterPhase (v : View) (phase : GamePhase) (roster : Option (List Snapshot)) :
    View × List String :=
  let v := { v with game := v.game.advance phase }
  let (v, begun) : View × List String := match roster with
    | none => (v, [])
    | some players =>
      ({ v with roster := players, me := (players.find? (·.name = v.me.name)).getD v.me },
        ["Everyone has picked a job. Let the fight begin!"])
  if phase = .gameOver then (v.endTurn, begun ++ ["Game over."]) else (v, begun)

/-- `apply`: the view after a notice and the lines to show. -/
def apply (v : View) : Notice → View × List String
  | .chat text => (v, [text])
  | .gameStarted =>
    ({ v with
        connection := v.connection.advance .inProgress
        game := v.game.advance .characterSelect
        me := { v.me with ready := false } },
      ["The game has begun! Wait for your turn to pick a job."])
  | .playerList players =>
    (v, numbered (players.map fun (name, ready) =>
      name ++ " | " ++ if ready then "Ready" else "Not Ready"))
  | .playerStats players =>
    (v, numbered (players.map fun (name, job, health) => statsLine name job health))
  | .takeTurn =>
    let v := { v with myTurn := true }
    (v, "It's your turn!" :: v.instructions)
  | .phaseChanged phase roster => v.enterPhase phase roster
  | .healthChanged name health => v.updateHealth name health
  | .disconnected reason => (v.endTurn, ["Disconnected by the server: " ++ reason])

/-- The view after the notices `ns` in order; the lines are dropped. -/
def hearAll (v : View) (ns : List Notice) : View :=
  ns.foldl (fun v n => (v.apply n).1) v

end View

end Skirmish
