import Skirmish.Link
import Skirmish.Options
import Skirmish.PlayerName
import Skirmish.Terminal

/-!
# The two programs

`main` of the client and of the server: what they make of their arguments and of typed lines, what
they print, and their exit codes. All typed lines are known from the start, and then the input ends.

The server that the client connects to sends nothing, and nobody connects to the server. `Arena` and
`Terminal` are about the other cases.
-/

namespace Skirmish

namespace Launch

/-- What a program needs to know of the machine that it runs on. -/
structure Machine where
  link : Link
  /-- The socket numbers that are in use. -/
  inUse : Nat → Bool
  /-- How many bytes a program can have. -/
  memory : Nat

/-- The error that `main` returns. -/
inductive Failure
  /-- A sentence of the program's own. -/
  | told (text : String)
  /-- The machine refused something. -/
  | system
  /-- What was typed is not text, or a host could not be made out. -/
  | unreadable
  /-- A request was too long to be sent. -/
  | unsendable
deriving DecidableEq, Repr

/-- The end of a program and what it has done before. -/
structure Exit where
  /-- None where the machine put an end to the program. -/
  code : Option Nat
  failure : Option Failure := none
  stdout : String := ""
  /-- The requests that the client sent, if it ever reached its server. -/
  sent : Option (List Request) := none
deriving DecidableEq, Repr

/-- The end for `Reading.wrong`. -/
def Exit.misuse : Exit := { code := some 2 }

/-- The end for `Reading.display text`. -/
def Exit.displayed (text : String) : Exit := { code := some 0, stdout := text }

/-! ## What is typed -/

/-- A line of the standard input; `none` if it is not UTF-8. -/
abbrev Line := Option String

/-- `bytes` without a carriage return at the end. -/
def withoutReturn (bytes : List UInt8) : List UInt8 :=
  if bytes.getLast? = some 13 then bytes.dropLast else bytes

/-- The line with the bytes `bytes`. -/
def lineOf (bytes : List UInt8) : Line :=
  match Text.Utf8.decode bytes with
  | .ok cs => some (.ofList cs)
  | .error _ => none

/-- The lines of the parts between line feeds. A carriage return before a line feed is dropped, and
so is an empty last part. -/
def linesOf : List (List UInt8) → List Line
  | [] => []
  | [last] => if last = [] then [] else [lineOf last]
  | part :: rest => lineOf (withoutReturn part) :: linesOf rest

/-- The lines of the standard input. -/
def inputLines (stdin : List UInt8) : List Line :=
  linesOf (Text.splitAt 10 stdin)

/-! ## The client program -/

/-- What `prompt_name` prints before each line. -/
def namePrompt : String := "Enter name: "

/-- What `prompt_name` prints for a line that `nameIn?` refuses. -/
def nameHint : String :=
  "Names are a single word of at most " ++ toString Rules.maxNameBytes ++ " characters.\n"

/-- What `main` of the client prints for a given name that `PlayerName.isEntered` refuses. -/
def nameComplaint (name : String) : String :=
  "'" ++ name ++ "' is not a valid name.\n"

/-- The trimmed line, if it is `PlayerName.isEntered`. -/
def nameIn? (line : String) : Option String :=
  let name := String.ofList (Text.trim line.toList)
  if PlayerName.isEntered name then some name else none

/-- The error of `prompt_name` at the end of the input. -/
def nameless : Failure := .told "stdin closed before a name was entered"

/-- `prompt_name`: all that it prints, and the first name with the lines behind it. -/
def askName : List Line → String × Except Failure (String × List Line)
  | [] => (namePrompt, .error nameless)
  | none :: _ => (namePrompt, .error .unreadable)
  | some line :: rest =>
    match nameIn? line with
    | some name => (namePrompt, .ok (name, rest))
    | none =>
      let (printed, result) := askName rest
      (namePrompt ++ nameHint ++ printed, result)

/-- The beginning of `main` of the client: the given name if it is `PlayerName.isEntered`, otherwise
`askName`. -/
def chooseName (given : Option String) (typed : List Line) :
    String × Except Failure (String × List Line) :=
  match given with
  | none => askName typed
  | some name =>
    if PlayerName.isEntered name then ("", .ok (name, typed))
    else
      let (printed, result) := askName typed
      (nameComplaint name ++ printed, result)

/-- The lines as events of the client, up to the first one that is not UTF-8. -/
def events : List Line → List Terminal.Event
  | some line :: rest => .typed line :: events rest
  | _ => [.inputEnds]

/-- What `main` of the client prints when `Link.connect` has succeeded. -/
def acceptedLine : String := "Connection accepted!"

/-- The end of `main` of the client, at a server that sends nothing. -/
def play (printed name : String) (typed : List Line) : Exit :=
  match Terminal.start name with
  | .error _ => { code := some 1, failure := some .unsendable, stdout := printed, sent := some [] }
  | .ok (terminal, first) =>
    let (last, outs) := terminal.run (events typed)
    let out := outs.foldl (· ++ ·) first
    let stdout := printed ++ acceptedLine ++ "\n" ++ String.join (out.shown.map (· ++ "\n"))
    match last.status with
    | .failed _ => { code := some 1, failure := some .unsendable, stdout, sent := some out.sent }
    | _ => { code := some 0, stdout, sent := some out.sent }

/-- `main` of the client. -/
def client (machine : Machine) (args : List String) (stdin : List UInt8) : Exit :=
  match ClientOptions.read args with
  | .wrong => .misuse
  | .display text => .displayed text
  | .run options =>
    match chooseName options.name (inputLines stdin) with
    | (printed, .error failure) => { code := some 1, failure := some failure, stdout := printed }
    | (printed, .ok (name, typed)) =>
      match machine.link.connect machine.inUse options.localSocket with
      | .error _ => { code := some 1, failure := some .system, stdout := printed }
      | .ok _ => play printed name typed

/-! ## The server program -/

/-- The error of `main` of the server for zero players. -/
def playerless : Failure := .told "at least one player is required"

/-- The bytes of one player in the memory that `Roster.empty` asks for. -/
def seatBytes : Nat := 40

/-- The greatest number of bytes that can be asked for at all. -/
def maxRoom : Nat := 0x7FFFFFFFFFFFFFF8

/-- What the memory for `players` seats leads to, after `bind`. Above `maxRoom` the program breaks
down with code 101, and above `memory` the machine ends it. -/
def seat (memory players : Nat) : Exit :=
  if maxRoom < players * seatBytes then { code := some 101 }
  else if memory < players * seatBytes then { code := none }
  else { code := some 0 }

/-- `main` of the server. -/
def server (machine : Machine) (args : List String) : Exit :=
  match ServerOptions.read args with
  | .wrong => .misuse
  | .display text => .displayed text
  | .run options =>
    if options.players = 0 then { code := some 1, failure := some playerless }
    else
      match Address.ofHost? options.host with
      | none => { code := some 1, failure := some .unreadable }
      | some address =>
        if machine.link.admits address then seat machine.memory options.players
        else { code := some 1, failure := some .system }

end Launch

end Skirmish
