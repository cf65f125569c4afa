import Skirmish.Text.Blank
import Skirmish.Text.Lowercase
import Skirmish.View

/-!
# What a typed line means

`route` of the client. A line that starts with a period is a command, any other one is chat. The
first word of a command is put into lower case; the target behind it is taken as it is typed. The
commands depend on the `GamePhase` of the view.

`View.route` gives the `Intent` of a line and the view after it. A job or an action clears `myTurn`,
`.ready` and `.notready` set the own readiness, and an `InputError` keeps the view.
-/

namespace Skirmish

/-- `Intent`: what the client does about a line. -/
inductive Intent
  /-- The request goes to the server. -/
  | send (request : Request)
  /-- The lines are shown. -/
  | display (lines : List String)
  | quit
  | nothing
deriving DecidableEq, Repr

/-- `InputError`: why `View.route` refuses a line. -/
inductive InputError
  | unknownCommand (word : String)
  | notYourTurn
  | missingTarget (word : String)
  | invalidTarget (name : String)
deriving DecidableEq, Repr

/-- The text of an error, as the client shows it. -/
def InputError.message : InputError → String
  | .unknownCommand word => "Whoops! '" ++ word ++ "' is not a command right now. Try again!"
  | .notYourTurn => "Wait for your turn."
  | .missingTarget word => "Usage: " ++ word ++ " <name|me>"
  | .invalidTarget name => "'" ++ name ++ "' is not a living player."

/-- `parse_job`: the job of a command word in lower case. -/
def Job.ofCommand? (word : String) : Option Job :=
  if word = ".1" ∨ word = ".wizard" then some .wizard
  else if word = ".2" ∨ word = ".warrior" then some .warrior
  else if word = ".3" ∨ word = ".assassin" then some .assassin
  else none

/-- `parse_action`: the action of a command word in lower case. -/
def Action.ofCommand? (word : String) : Option Action :=
  if word = ".1" ∨ word = ".heal" then some .heal
  else if word = ".2" ∨ word = ".healrng" then some .healRandom
  else if word = ".3" ∨ word = ".atk" then some .attack
  else if word = ".4" ∨ word = ".atkrng" then some .attackRandom
  else none

namespace View

/-- The branch of `route` for `inProgress = false`. -/
def routeLobby (v : View) (word : String) : Except InputError (Intent × View) :=
  if word = ".ready" then .ok (.send .ready, v.setReady true)
  else if word = ".notready" then .ok (.send .unready, v.setReady false)
  else if word = ".players" then .ok (.send .listPlayers, v)
  else .error (.unknownCommand word)

/-- The branch of `route` for `characterSelect`: a job is sent if it is the own turn, and
`View.chooseJob`. -/
def routeSelect (v : View) (word : String) : Except InputError (Intent × View) :=
  match Job.ofCommand? word with
  | none => .error (.unknownCommand word)
  | some job =>
    if v.myTurn then .ok (.send (.chooseJob job), v.chooseJob job) else .error .notYourTurn

/-- The branch of `route` for `main`. It needs, in this order, an action word, the own turn, a
target, and that the target is `Rules.selfWord` or `living?`; then `View.endTurn`. -/
def routeMain (v : View) (word target : String) : Except InputError (Intent × View) :=
  match Action.ofCommand? word with
  | none => .error (.unknownCommand word)
  | some action =>
    if ¬v.myTurn then .error .notYourTurn
    else if target = "" then .error (.missingTarget word)
    else if target ≠ Rules.selfWord ∧ v.living? target = none then .error (.invalidTarget target)
    else .ok (.send (.act action target), v.endTurn)

/-- The branch of `route` for `inProgress = true`. -/
def routeGame (v : View) (word target : String) : Except InputError (Intent × View) :=
  if word = ".stats" then .ok (.send .listStats, v)
  else if word = ".localstats" then .ok (.display v.localStats, v)
  else
    match v.game with
    | .characterSelect => v.routeSelect word
    | .main => v.routeMain word target
    | .pending | .gameOver => .error (.unknownCommand word)

/-- The branch of `route` for a line whose first word, in lower case, begins with a period; `target`
is its second word as it was typed. -/
def routeCommand (v : View) (word target : String) : Except InputError (Intent × View) :=
  if word = ".whoami" then .ok (.display [v.me.name], v)
  else if word = ".help" then .ok (.display v.instructions, v)
  else if word = ".quit" then .ok (.quit, v)
  else if v.inProgress then v.routeGame word target
  else v.routeLobby word

/-- `route`: the intent of a line and the view after it. Nothing for a blank line; `routeCommand` if
the first word begins with a period; otherwise the trimmed line is chat. An error leaves the view as
it is. -/
def route (v : View) (line : String) : Except InputError (Intent × View) :=
  match Text.trim line.toList with
  | [] => .ok (.nothing, v)
  | text =>
    let (first, rest) := Text.splitWord text
    let word := Text.lowercase first
    if word.head? = some '.' then
      v.routeCommand (.ofList word) (.ofList (Text.splitWord rest).1)
    else .ok (.send (.chat (.ofList text)), v)

end View

end Skirmish
