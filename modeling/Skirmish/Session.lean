import Skirmish.Combat
import Skirmish.Session.Effect
import Skirmish.Text.Blank
import Skirmish.Turns

/-!
# A session

`GameSession`: roster, phases, turn token and dice, and its operations.

* In `pending`, `register`, `set_ready` and `disconnect` add, mark and remove players. `try_start`
  starts the game once the roster is full and all are ready.
* In `characterSelect` the holder of the turn chooses a job (`choose_job`), slot by slot.
* In `main` the turn goes round the living, and the holder heals or attacks (`take_action`).
* In `main` the game ends as soon as at most one player lives. In `characterSelect` it goes on until
  every living player has chosen, however few live.

An operation either succeeds, with a new session and its effects in order, or is refused and changes
nothing. `Session.handle` is for requests of connections, `Session.disconnect` for connections that
are lost: in `pending` it removes the player, in a game the player stays and is dead.
-/

namespace Skirmish

/-- `GameSession`: the state of a game, with dice of type `δ`. -/
structure Session (δ : Type) where
  connection : ConnectionPhase := .initializing
  game : GamePhase := .pending
  roster : Roster
  turns : Turns := {}
  dice : δ

namespace Session

variable {δ : Type}

/-- The session after an operation, and the effects in the order in which they are to happen. -/
abbrev Step (δ : Type) := Session δ × List Effect

/-- A `Step`, or why the session stays as it is. -/
abbrev Outcome (δ : Type) := Except Refusal (Step δ)

/-- `new` of a session: an empty roster with room for `expected` players. -/
def new (expected : Nat) (dice : δ) : Session δ :=
  { roster := .empty expected, dice }

/-- `open`: the connection phase is at least `acceptingConnections`. -/
def opened (s : Session δ) : Session δ :=
  { s with connection := s.connection.advance .acceptingConnections }

/-- `name_of`: the name of the player `id`, or `unknownPlayer`. -/
def nameOf (s : Session δ) (id : PlayerId) : Except Refusal String :=
  match s.roster.get? id with
  | some p => .ok p.name
  | none => .error (.unknownPlayer id)

/-- `waiting_line`: how many players are missing to `capacity`, if any are. -/
def waiting (s : Session δ) : List Effect :=
  match s.roster.capacity - s.roster.players.length with
  | 0 => []
  | 1 => [.announce "Waiting for 1 more player."]
  | n => [.announce ("Waiting for " ++ toString n ++ " more players.")]

/-! ## Starting -/

/-- The condition of `try_start`: not yet `inProgress`, and the roster full, not empty and
`allReady`. -/
def canStart (s : Session δ) : Bool :=
  s.connection ≠ .inProgress && s.roster.isFull && !s.roster.players.isEmpty && s.roster.allReady

/-- `start_game`: nobody is `ready` any more, the phases are `inProgress` and `characterSelect`, and
the first living player gets the token and is told. From here on `ready` means that a player has
chosen its job. -/
def start (s : Session δ) : Step δ :=
  let roster := s.roster.updateAll ({ · with ready := false })
  let turns := Turns.start roster
  let first := match turns.holder with
    | some id => [.unicast id .takeTurn]
    | none => []
  ({ s with
      connection := s.connection.advance .inProgress
      game := s.game.advance .characterSelect
      roster, turns },
    .broadcast .gameStarted :: first)

/-- `try_start`: `start` if `canStart`. -/
def tryStart (s : Session δ) : Step δ :=
  if s.canStart then s.start else (s, [])

/-! ## Ending -/

/-- `finish`: nobody has the token, the phase is `gameOver`, and the result and the phase are told
to everybody. -/
def finish (s : Session δ) (winner : Option String) : Step δ :=
  let line := match winner with
    | some name => name ++ " wins!"
    | none => "Nobody wins."
  ({ s with turns := {}, game := s.game.advance .gameOver },
    [.announce line, .broadcast (.phaseChanged .gameOver none)])

/-! ## Passing the turn -/

/-- `advance_main` of the session: by `Turns.advanceMain` either the next player is named and told,
or `finish` ends the game. -/
def advanceMain (s : Session δ) : Step δ :=
  let (step, turns) := s.turns.advanceMain s.roster
  let s := { s with turns }
  let name? (id : PlayerId) := (s.roster.get? id).map (·.name)
  match step with
  | .turn id =>
    let line := match name? id with
      | some name => [.announce (name ++ "'s turn")]
      | none => []
    (s, line ++ [.unicast id .takeTurn])
  | .winner id => s.finish (name? id)
  | .noSurvivors => s.finish none

/-- `start_main`: the phase is `main`, everybody gets `Roster.snapshots`, and then `advanceMain`. -/
def startMain (s : Session δ) : Step δ :=
  let s := { s with game := s.game.advance .main }
  let (next, effects) := s.advanceMain
  (next, .broadcast (.phaseChanged .main (some s.roster.snapshots)) :: effects)

/-- `advance_character_select` of the session: by `Turns.advanceSelect` either the next player is
told, or `startMain`. -/
def advanceSelect (s : Session δ) : Step δ :=
  let (step, turns) := s.turns.advanceSelect s.roster
  let s := { s with turns }
  match step with
  | .next id => (s, [.unicast id .takeTurn])
  | .finished => s.startMain

/-! ## The lobby -/

/-- `register` of a session: refused as `full` once the game is `inProgress`, and as
`Roster.register` refuses. Otherwise the player joins, the connection phase is at least `lobbyOpen`,
and `tryStart` if it is `ready`. -/
def register (s : Session δ) (id : PlayerId) (name : String) (ready : Bool) : Outcome δ :=
  if s.connection = .inProgress then .error (.roster .full)
  else
    match s.roster.register id name ready with
    | .error why => .error (.roster why)
    | .ok roster =>
      let joined := { s with roster, connection := s.connection.advance .lobbyOpen }
      let (next, started) := if ready then joined.tryStart else (joined, [])
      .ok (next, .announce (name ++ " has joined.") :: (joined.waiting ++ started))

/-- `set_ready`: refused as `wrongPhase` once the game is `inProgress`, and as `unknownPlayer`.
Otherwise the player's `ready` is set, and `tryStart` if it is set to `true`. -/
def setReady (s : Session δ) (id : PlayerId) (ready : Bool) : Outcome δ :=
  if s.connection = .inProgress then .error (.wrongPhase (if ready then .ready else .unready))
  else
    match s.nameOf id with
    | .error why => .error why
    | .ok name =>
      let s := { s with roster := s.roster.update id ({ · with ready }) }
      if ready then
        let (next, started) := s.tryStart
        .ok (next, .announce (name ++ " is ready.") :: started)
      else .ok (s, [.announce (name ++ " is not ready.")])

/-! ## Questions and talk -/

/-- `player_list`: name and `ready` of every player, to the player that asks. -/
def playerList (s : Session δ) (id : PlayerId) : Outcome δ :=
  match s.nameOf id with
  | .error why => .error why
  | .ok _ =>
    .ok (s, [.unicast id (.playerList (s.roster.players.map fun p => (p.name, p.ready)))])

/-- `player_stats`: name, job and health of every player, to the player that asks. -/
def playerStats (s : Session δ) (id : PlayerId) : Outcome δ :=
  match s.nameOf id with
  | .error why => .error why
  | .ok _ =>
    .ok (s, [.unicast id (.playerStats (s.roster.players.map fun p => (p.name, p.job, p.health)))])

/-- `chat`: the text with the player's name before it, to everybody, unless it is
`Text.isBlankText`. -/
def chat (s : Session δ) (id : PlayerId) (text : String) : Outcome δ :=
  match s.nameOf id with
  | .error why => .error why
  | .ok name =>
    if Text.isBlankText text then .ok (s, [])
    else .ok (s, [.broadcast (.chat (name ++ ": " ++ text))])

/-- `server_chat`: an announcement of the text, unless it is `Text.isBlankText`. -/
def serverChat (text : String) : List Effect :=
  if Text.isBlankText text then [] else [.announce text]

/-! ## The game -/

/-- `choose_job`: refused, in this order, as `wrongPhase`, `invalidJob`, `outOfTurn` or
`unknownPlayer`. Otherwise the player has the job and is `ready`, and then `advanceSelect`. -/
def chooseJob (s : Session δ) (id : PlayerId) (job : Job) : Outcome δ :=
  if s.game ≠ .characterSelect then .error (.wrongPhase .chooseJob)
  else if job = .unassigned then .error (.invalidJob job)
  else if ¬s.turns.isHolder id then .error (.outOfTurn id)
  else
    match s.nameOf id with
    | .error why => .error why
    | .ok name =>
      let s := { s with roster := s.roster.update id ({ · with job, ready := true }) }
      let (next, effects) := s.advanceSelect
      .ok (next, .announce (name ++ " has chosen to be a " ++ job.title) :: effects)

/-- The player that `take_action` aims at: `id` itself for `Rules.selfWord`, otherwise the living
player of that name, or `invalidTarget`. -/
def target (s : Session δ) (id : PlayerId) (name : String) : Except Refusal PlayerId :=
  if name = Rules.selfWord then .ok id
  else
    match s.roster.find name with
    | .ok p => if p.alive then .ok p.id else .error (.invalidTarget name)
    | .error _ => .error (.invalidTarget name)

/-- `take_action`: refused, in this order, as `wrongPhase`, `outOfTurn`, `unknownPlayer` or
`invalidTarget`. Otherwise `Action.resolve` on the `target`, the line and the new health to
everybody, and then `advanceMain`. -/
def takeAction [Dice δ] (s : Session δ) (id : PlayerId) (action : Action) (name : String) :
    Outcome δ :=
  if s.game ≠ .main then .error (.wrongPhase .act)
  else if ¬s.turns.isHolder id then .error (.outOfTurn id)
  else
    match s.nameOf id with
    | .error why => .error why
    | .ok actor =>
      match s.target id name with
      | .error why => .error why
      | .ok targetId =>
        match s.roster.get? targetId with
        | none => .error (.unknownPlayer targetId)
        | some p =>
          let (resolution, standing, dice) := action.resolve p.toStanding s.dice
          let s := { s with roster := s.roster.update targetId fun _ => standing, dice }
          let (next, effects) := s.advanceMain
          .ok (next,
            .announce (action.describe actor p.name resolution.delta) ::
            .broadcast (.healthChanged p.name resolution.health) :: effects)

/-! ## Requests and lost connections -/

/-- The operation that `handle` calls for each request. -/
def request [Dice δ] (s : Session δ) (id : PlayerId) : Request → Outcome δ
  | .intro name ready => s.register id name ready
  | .ready => s.setReady id true
  | .unready => s.setReady id false
  | .listPlayers => s.playerList id
  | .listStats => s.playerStats id
  | .chat text => s.chat id text
  | .chooseJob job => s.chooseJob id job
  | .act action name => s.takeAction id action name

/-- `handle`: the `Step` of a request that is granted; the `Refusal.effects` and the same session
for one that is refused. -/
def handle [Dice δ] (s : Session δ) (id : PlayerId) (r : Request) : Step δ :=
  match s.request id r with
  | .ok step => step
  | .error why => (s, why.effects id)

/-- The end of `disconnect` in a game: the turn passes on if `id` has it. In `main` the game ends if
it has not and at most one player lives; in `characterSelect` there is no such test. -/
def afterForfeit (s : Session δ) (id : PlayerId) : Step δ :=
  match s.game with
  | .characterSelect => if s.turns.isHolder id then s.advanceSelect else (s, [])
  | .main =>
    if s.turns.isHolder id then s.advanceMain
    else if s.roster.aliveCount ≤ 1 then
      s.finish ((s.roster.players.find? (·.alive)).map (·.name))
    else (s, [])
  | .pending | .gameOver => (s, [])

/-- `disconnect`: in the lobby the player is removed. In a game it stays in the roster, its standing
is `Standing.forfeit`, and `afterForfeit`. Nothing if the player is unknown or dead or the game is
over. -/
def disconnect (s : Session δ) (id : PlayerId) : Step δ :=
  match s.roster.get? id with
  | none => (s, [])
  | some p =>
    if s.connection ≠ .inProgress then
      let roster := match s.roster.remove id with
        | some (_, roster) => roster
        | none => s.roster
      let s := { s with roster }
      (s, .announce (p.name ++ " has left.") :: s.waiting)
    else if s.game = .gameOver ∨ ¬p.alive then (s, [])
    else
      let s := { s with roster := s.roster.update id Standing.forfeit }
      let (next, effects) := s.afterForfeit id
      (next,
        .announce (p.name ++ " has left the game.") ::
        .broadcast (.healthChanged p.name p.toStanding.forfeit.health) :: effects)

end Session

end Skirmish
