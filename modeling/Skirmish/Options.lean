import Skirmish.Rules
import Skirmish.Text.Numeral

/-!
# Command lines

The options of the two programs. An option is written with two dashes and its name or with one
dash and its letter, and has a value: in the same argument (`--name=Bob`, `-n=Bob`, `-nBob`) or in
the next one, which then must not begin with a dash unless it is a lone dash. Every option is
given at most once, nothing else may be given, and arguments count from left to right: the first
one that is wrong or asks for help decides.
-/

namespace Skirmish

/-- What `read` makes of the arguments of a program; `wrong` ends the program with code 2. -/
inductive Reading (α : Type)
  | run (options : α)
  /-- Help or the version was asked for. -/
  | display (text : String)
  | wrong
deriving DecidableEq, Repr

namespace Options

/-- An option with the two ways to write it. `set` is `none` for a value that is refused. -/
structure Kind (α : Type) where
  name : String
  letter : Char
  set : α → String → Option α

/-- The options of a program and the texts of `--help` and `--version`. -/
structure Usage (α : Type) where
  kinds : List (Kind α)
  help : String
  version : String

/-- What `classify` makes of one argument. -/
inductive Argument (α : Type)
  | help
  | version
  /-- An option, and the value if it is in the same argument. -/
  | option (kind : Kind α) (value : Option (List Char))
  | unknown

variable {α : Type}

/-- The argument `--text`: the name is what stands before the first `=`. -/
def classifyLong (u : Usage α) (text : List Char) : Argument α :=
  let name := text.takeWhile (· ≠ '=')
  let value := (text.dropWhile (· ≠ '=')).tail?
  if name = "help".toList ∧ value = none then .help
  else if name = "version".toList ∧ value = none then .version
  else
    match u.kinds.find? (·.name.toList = name) with
    | some kind => .option kind value
    | none => .unknown

/-- The argument `-` followed by `letter` and `text`: all of `text` is the value, but for an `=` in
front. -/
def classifyShort (u : Usage α) (letter : Char) (text : List Char) : Argument α :=
  if letter = 'h' then .help
  else if letter = 'V' then .version
  else
    match u.kinds.find? (·.letter = letter) with
    | none => .unknown
    | some kind =>
      match text with
      | [] => .option kind none
      | '=' :: value => .option kind (some value)
      | value => .option kind (some value)

/-- An argument where no value is expected. -/
def classify (u : Usage α) : List Char → Argument α
  | '-' :: '-' :: text => if text = [] then .unknown else classifyLong u text
  | '-' :: letter :: text => classifyShort u letter text
  | _ => .unknown

/-- `arg` can be the value of the option before it: it does not begin with `-`, or is `-` itself. -/
def isValue : List Char → Bool
  | ['-'] => true
  | '-' :: _ => false
  | _ => true

/-- `Kind.set`, for an option that is not in `given` yet. -/
def put (options : α) (given : List String) (kind : Kind α) (value : List Char) : Option α :=
  if kind.name ∈ given then none else kind.set options (.ofList value)

/-- The arguments from left to right, given the options so far and the names of those that were
`given`. The first one that is wrong or asks for a text decides. -/
def readFrom (u : Usage α) (options : α) (given : List String) : List String → Reading α
  | [] => .run options
  | arg :: rest =>
    match classify u arg.toList with
    | .help => .display u.help
    | .version => .display u.version
    | .unknown => if arg = "--" ∧ rest = [] then .run options else .wrong
    | .option kind (some value) =>
      match put options given kind value with
      | some options => readFrom u options (kind.name :: given) rest
      | none => .wrong
    | .option kind none =>
      match rest with
      | [] => .wrong
      | value :: rest =>
        if isValue value.toList then
          match put options given kind value.toList with
          | some options => readFrom u options (kind.name :: given) rest
          | none => .wrong
        else .wrong

/-- `readFrom` with the defaults. -/
def read (u : Usage α) (defaults : α) (args : List String) : Reading α :=
  readFrom u defaults [] args

/-! ## Numbers -/

/-- A decimal number below `bound`, with or without a `+` before it. -/
def natural? (bound : Nat) (text : String) : Option Nat :=
  let value := match text.toList with
    | '+' :: cs => Text.numeral? 10 cs
    | cs => Text.numeral? 10 cs
  value.filter (· < bound)

/-- A decimal number below `2 ^ 16`; `-0` counts as `0`. -/
def socket? (text : String) : Option Nat :=
  match text.toList with
  | '-' :: cs => (Text.numeral? 10 cs).filter (· = 0)
  | _ => natural? 0x10000 text

end Options

/-! ## The client -/

/-- `Args` of the client. -/
structure ClientOptions where
  server : String := "127.0.0.1:60000"
  name : Option String := none
  /-- The socket number to connect from. -/
  localSocket : Option Nat := none
deriving DecidableEq, Repr

/-- The options of the client. -/
def ClientOptions.usage : Options.Usage ClientOptions where
  kinds := [
    ⟨"server", 's', fun o v => some { o with server := v }⟩,
    ⟨"name", 'n', fun o v => some { o with name := some v }⟩,
    ⟨"local-port", 'l', fun o v =>
      (Options.socket? v).map fun n => { o with localSocket := some n }⟩]
  help :=
    "Usage: client [OPTIONS]\n\nOptions:\n" ++
    "  -s, --server <SERVER>          " ++
    "Server address to connect to [default: 127.0.0.1:60000]\n" ++
    "  -n, --name <NAME>              Player name; asked for on startup when missing\n" ++
    "  -l, --local-port <LOCAL_PORT>  Local port to connect from\n" ++
    "  -h, --help                     Print help\n" ++
    "  -V, --version                  Print version\n"
  version := "client 0.1.0\n"

/-- `read` for the client. -/
def ClientOptions.read (args : List String) : Reading ClientOptions :=
  Options.read usage {} args

/-! ## The server -/

/-- `Args` of the server. -/
structure ServerOptions where
  host : String := "127.0.0.1"
  socket : Nat := 60000
  players : Nat := Rules.expectedPlayers
  seed : Option Nat := none
deriving DecidableEq, Repr

/-- The options of the server. -/
def ServerOptions.usage : Options.Usage ServerOptions where
  kinds := [
    ⟨"host", 'H', fun o v => some { o with host := v }⟩,
    ⟨"port", 'p', fun o v => (Options.socket? v).map fun n => { o with socket := n }⟩,
    ⟨"players", 'n', fun o v =>
      (Options.natural? 0x10000000000000000 v).map fun n => { o with players := n }⟩,
    ⟨"seed", 's', fun o v =>
      (Options.natural? 0x10000000000000000 v).map fun n => { o with seed := some n }⟩]
  help :=
    "Usage: server [OPTIONS]\n\nOptions:\n" ++
    "  -H, --host <HOST>        IP address to bind to [default: 127.0.0.1]\n" ++
    "  -p, --port <PORT>        Port to listen on [default: 60000]\n" ++
    "  -n, --players <PLAYERS>  Number of players needed to start the game [default: 3]\n" ++
    "  -s, --seed <SEED>        Seed for random heals and attacks\n" ++
    "  -h, --help               Print help\n" ++
    "  -V, --version            Print version\n"
  version := "server 0.1.0\n"

/-- `read` for the server. -/
def ServerOptions.read (args : List String) : Reading ServerOptions :=
  Options.read usage {} args

end Skirmish
