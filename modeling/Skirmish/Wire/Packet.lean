import Skirmish.Packet
import Skirmish.Wire.Field

/-!
# Packets as bytes

A packet is the tag of its variant and then its fields in order, nothing between them and nothing
after them. A type whose values travel is an instance of `Packet`; `encode` and `decode` work for
each such type.

* `encode` refuses a packet of more than `Rules.maxPacketBytes` bytes.
* `decode` has no such limit, but refuses bytes that are left over.
-/

namespace Skirmish.Wire

/-! ## Jobs, actions and phases -/

/-- The variant number of a job. -/
def writeJob : Job → List UInt8
  | .wizard => Varint.write 0
  | .warrior => Varint.write 1
  | .assassin => Varint.write 2
  | .unassigned => Varint.write 3

/-- The job with the variant number that is read. -/
def readJob : Reader Job := do
  match ← readTag 4 with
  | 0 => return .wizard
  | 1 => return .warrior
  | 2 => return .assassin
  | 3 => return .unassigned

/-- The variant number of an action. -/
def writeAction : Action → List UInt8
  | .heal => Varint.write 0
  | .healRandom => Varint.write 1
  | .attack => Varint.write 2
  | .attackRandom => Varint.write 3

/-- The action with the variant number that is read. -/
def readAction : Reader Action := do
  match ← readTag 4 with
  | 0 => return .heal
  | 1 => return .healRandom
  | 2 => return .attack
  | 3 => return .attackRandom

/-- The variant number of a game phase. -/
def writePhase : GamePhase → List UInt8
  | .pending => Varint.write 0
  | .characterSelect => Varint.write 1
  | .main => Varint.write 2
  | .gameOver => Varint.write 3

/-- The game phase with the variant number that is read. -/
def readPhase : Reader GamePhase := do
  match ← readTag 4 with
  | 0 => return .pending
  | 1 => return .characterSelect
  | 2 => return .main
  | 3 => return .gameOver

/-! ## Rows -/

/-- The fields of a `Snapshot` in order. -/
def writeSnapshot (s : Snapshot) : List UInt8 :=
  writeText s.name ++ writeHealth s.health ++ writeFlag s.ready ++ writeJob s.job

/-- The fields of a `Snapshot` in order. -/
def readSnapshot : Reader Snapshot := do
  let name ← readText
  let health ← readHealth
  let ready ← readFlag
  let job ← readJob
  return ⟨name, health, ready, job⟩

/-- The fields of a row of `Notice.playerList` in order. -/
def writeListRow (row : String × Bool) : List UInt8 :=
  writeText row.1 ++ writeFlag row.2

/-- The fields of a row of `Notice.playerList` in order. -/
def readListRow : Reader (String × Bool) := do
  let name ← readText
  let ready ← readFlag
  return (name, ready)

/-- The fields of a row of `Notice.playerStats` in order. -/
def writeStatsRow (row : String × Job × Int32) : List UInt8 :=
  writeText row.1 ++ writeJob row.2.1 ++ writeHealth row.2.2

/-- The fields of a row of `Notice.playerStats` in order. -/
def readStatsRow : Reader (String × Job × Int32) := do
  let name ← readText
  let job ← readJob
  let health ← readHealth
  return (name, job, health)

/-! ## Requests -/

/-- The variant number of a request and then its fields in order. -/
def writeRequest : Request → List UInt8
  | .intro name ready => Varint.write 0 ++ writeText name ++ writeFlag ready
  | .ready => Varint.write 1
  | .unready => Varint.write 2
  | .listPlayers => Varint.write 3
  | .listStats => Varint.write 4
  | .chat text => Varint.write 5 ++ writeText text
  | .chooseJob job => Varint.write 6 ++ writeJob job
  | .act action target => Varint.write 7 ++ writeAction action ++ writeText target

/-- The variant number of a request and then the fields of that variant. -/
def readRequest : Reader Request := do
  match ← readTag 8 with
  | 0 =>
    let name ← readText
    let ready ← readFlag
    return .intro name ready
  | 1 => return .ready
  | 2 => return .unready
  | 3 => return .listPlayers
  | 4 => return .listStats
  | 5 =>
    let text ← readText
    return .chat text
  | 6 =>
    let job ← readJob
    return .chooseJob job
  | 7 =>
    let action ← readAction
    let target ← readText
    return .act action target

/-! ## Notices -/

/-- The variant number of a notice and then its fields in order. -/
def writeNotice : Notice → List UInt8
  | .chat text => Varint.write 0 ++ writeText text
  | .gameStarted => Varint.write 1
  | .playerList players => Varint.write 2 ++ writeList writeListRow players
  | .playerStats players => Varint.write 3 ++ writeList writeStatsRow players
  | .takeTurn => Varint.write 4
  | .phaseChanged phase roster =>
    Varint.write 5 ++ writePhase phase ++ writeOption (writeList writeSnapshot) roster
  | .healthChanged name health => Varint.write 6 ++ writeText name ++ writeHealth health
  | .disconnected reason => Varint.write 7 ++ writeText reason

/-- The variant number of a notice and then the fields of that variant. -/
def readNotice : Reader Notice := do
  match ← readTag 8 with
  | 0 =>
    let text ← readText
    return .chat text
  | 1 => return .gameStarted
  | 2 =>
    let players ← readList readListRow
    return .playerList players
  | 3 =>
    let players ← readList readStatsRow
    return .playerStats players
  | 4 => return .takeTurn
  | 5 =>
    let phase ← readPhase
    let roster ← readOption (readList readSnapshot)
    return .phaseChanged phase roster
  | 6 =>
    let name ← readText
    let health ← readHealth
    return .healthChanged name health
  | 7 =>
    let reason ← readText
    return .disconnected reason

/-! ## Whole packets -/

/-- A type with an encoding: `Request` and `Notice`. -/
class Packet (α : Type) where
  /-- All bytes of a packet, whatever their number. -/
  write : α → List UInt8
  /-- Takes one packet. -/
  read : Reader α

instance : Packet Request := ⟨writeRequest, readRequest⟩

instance : Packet Notice := ⟨writeNotice, readNotice⟩

variable {α : Type} [Packet α]

/-- `encode` refuses a packet of `size > Rules.maxPacketBytes` bytes. -/
structure Oversized where
  size : Nat
deriving DecidableEq, Repr

/-- The text of an `Encode` error of the protocol. -/
def Oversized.message (_ : Oversized) : String :=
  "failed to encode packet: the size limit has been reached"

/-- `encode`: all bytes of `packet`, if they are at most `Rules.maxPacketBytes`. -/
def encode (packet : α) : Except Oversized (List UInt8) :=
  let bytes := Packet.write packet
  if bytes.length ≤ Rules.maxPacketBytes then .ok bytes else .error ⟨bytes.length⟩

/-- `decode`: the packet that `Packet.read` gives, if it leaves no bytes over. -/
def decode (bytes : List UInt8) : Except Malformed α :=
  match Packet.read bytes with
  | .error e => .error e
  | .ok (packet, []) => .ok packet
  | .ok (_, _ :: _) => .error .leftover

end Skirmish.Wire
