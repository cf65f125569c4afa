import Skirmish.Address

/-!
# The network

`connect` of the client, with `bind_local`: a local port that is taken is tried again with the ones
above, up to `socketProbes` of them. Whether the server can be reached, and where a server can
listen, depends on the `Link`.
-/

namespace Skirmish

/-- Whether the machine has a network. -/
inductive Link
  /-- The machine reaches itself and others. -/
  | up
  /-- The machine reaches nobody, not even itself, and has no addresses yet. -/
  | down
deriving DecidableEq, Repr, Inhabited

/-- Why `connect` of the client fails. -/
inductive ConnectFailure
  | unreachable
  | addressInUse
deriving DecidableEq, Repr

/-- The text of the error that the system gives. -/
def ConnectFailure.message : ConnectFailure → String
  | .unreachable => "Network is unreachable (os error 101)"
  | .addressInUse => "Address already in use (os error 98)"

/-- `LOCAL_PORT_PROBES`. -/
def socketProbes : Nat := 16

/-- The ports that `bind_local` tries, in order: from `wanted` to `wanted + socketProbes`, below `2
^ 16`. -/
def socketCandidates (wanted : Nat) : List Nat :=
  ((List.range (socketProbes + 1)).map (wanted + ·)).filter (· < 0x10000)

/-- `bind_local`: the first of the `socketCandidates` that is not in use. -/
def freeSocket? (inUse : Nat → Bool) (wanted : Nat) : Option Nat :=
  (socketCandidates wanted).find? (!inUse ·)

/-- `connect`: the local port of the connection, `none` if no particular one is wanted. A failure of
`bind_local` comes before one of the link. -/
def Link.connect (link : Link) (inUse : Nat → Bool) (wanted : Option Nat) :
    Except ConnectFailure (Option Nat) :=
  let reach (own : Option Nat) : Except ConnectFailure (Option Nat) :=
    match link with
    | .up => .ok own
    | .down => .error .unreachable
  match wanted with
  | none => reach none
  | some n =>
    match freeSocket? inUse n with
    | none => .error .addressInUse
    | some own => reach (some own)

/-! ## Listening -/

/-- The address lies in `0.0.0.0/8` or `127.0.0.0/8`. -/
def isOwn (bits : UInt32) : Bool :=
  let first := bits / 0x1000000
  first == 0 || first == 127

/-- Whether `bind` succeeds at an address. Without a network any address of four bytes will do, also
one of another machine. -/
def Link.admits (link : Link) (address : Address) : Bool :=
  match address.four?, link with
  | some _, .down => true
  | some bits, .up => isOwn bits
  | none, .down => address.isUnspecified
  | none, .up => address.isUnspecified || address.isLoopback

end Skirmish
