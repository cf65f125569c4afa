import Skirmish.Roster

/-!
# What a session says

`Outbound` (`Effect`) and `SessionError` (`Session.Refusal`). A session sends nothing by itself:
each operation returns, in order, what is to be sent and to whom, or an error.
-/

namespace Skirmish

/-- `Outbound`: one thing for the server to do after an operation, in the order of the list. -/
inductive Effect
  /-- The notice goes to everybody who is connected. -/
  | broadcast (notice : Notice)
  /-- The notice goes to one connection only. -/
  | unicast (recipient : PlayerId) (notice : Notice)
  /-- The connection is dropped once everything before has been sent. -/
  | close (id : PlayerId)
deriving DecidableEq, Repr

/-- A `broadcast` of `Notice.serverLine text`. -/
def Effect.announce (text : String) : Effect :=
  .broadcast (.serverLine text)

/-- The requests that `Refusal.wrongPhase` names. -/
inductive PhasedRequest
  | ready
  | unready
  | chooseJob
  | act
deriving DecidableEq, Repr

/-- The name of a request in the text of `Refusal.wrongPhase`. -/
def PhasedRequest.label : PhasedRequest → String
  | .ready => "ready"
  | .unready => "unready"
  | .chooseJob => "choose job"
  | .act => "action"

/-- `SessionError`: why `Session.request` fails. -/
inductive Session.Refusal
  | roster (why : Roster.Refusal)
  | wrongPhase (request : PhasedRequest)
  | outOfTurn (id : PlayerId)
  | invalidTarget (name : String)
  | invalidJob (job : Job)
  | unknownPlayer (id : PlayerId)
deriving DecidableEq, Repr

namespace Session.Refusal

/-- The text of a refusal. -/
def message : Session.Refusal → String
  | .roster why => why.message
  | .wrongPhase request => "'" ++ request.label ++ "' is not accepted in the current phase"
  | .outOfTurn id => id.text ++ " does not hold the turn"
  | .invalidTarget name => "'" ++ name ++ "' is not a valid target"
  | .invalidJob job => job.title ++ " is not a selectable job"
  | .unknownPlayer id => "connection " ++ id.text ++ " has not introduced itself"

/-- `closes_connection`: exactly `full`, `nameTaken` and `invalidName` of the roster end the
connection. -/
def closes : Session.Refusal → Bool
  | .roster .full | .roster (.nameTaken _) | .roster (.invalidName _) => true
  | _ => false

/-- What `Session.handle` sends for a refusal: if it `closes`, its `message` to whoever asked and
then the end of the connection; otherwise nothing. -/
def effects (why : Session.Refusal) (id : PlayerId) : List Effect :=
  if why.closes then [.unicast id (.disconnected why.message), .close id] else []

end Session.Refusal

end Skirmish
