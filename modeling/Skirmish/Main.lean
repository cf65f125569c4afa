import Skirmish.Dice.Seeded
import Skirmish.Hub
import Skirmish.Launch
import Skirmish.Listener
import Std.Async.TCP
import Std.Sync.Channel
import Std.Sync.Mutex

/-!
# The command line

`client` and `server`, each followed by its own options. All that is decided is decided elsewhere:
by the `Hub` and a `Listener` for each connection on the side of the server, and by the `Terminal`
on the side of the client. This module only carries bytes and lines between them, the sockets and
the console.
-/

namespace Skirmish.Program

open Std.Async

/-- A connected socket. -/
abbrev Stream := TCP.Socket.Client

/-- The socket address of `Address.ofHost? host`. -/
def address? (host : String) (socket : Nat) : Option Std.Net.SocketAddress :=
  (Address.ofHost? host).map fun
    | .v4 bits =>
      let byte (unit : UInt32) : UInt8 := (bits / unit).toUInt8
      .v4 ⟨.ofParts (byte 0x1000000) (byte 0x10000) (byte 0x100) (byte 1), .ofNat socket⟩
    | .v6 groups => .v6 ⟨⟨groups⟩, .ofNat socket⟩

/-- At most 4096 bytes from a stream; `none` at its end or at an error. -/
def portion? (stream : Stream) : Async (Option (List UInt8)) := do
  try
    let bytes ← stream.recv? 4096
    return bytes.map (·.toList)
  catch _ => return none

/-- Sends `bytes`; an error is dropped. -/
def send (stream : Stream) (bytes : List UInt8) : Async Unit := do
  try stream.send ⟨bytes.toArray⟩ catch _ => pure ()

/-- Closes the sending half of a stream. -/
def shut (stream : Stream) : Async Unit := do
  try stream.shutdown catch _ => pure ()

/-- The rest of a line of which the bytes `sofar` are read; `none` at the end of the input. -/
partial def typedAfter? (sofar : ByteArray) : IO (Option Launch.Line) := do
  let byte ← (← IO.getStdin).read 1
  match byte.toList with
  | [] => return if sofar.isEmpty then none else some (Launch.lineOf sofar.toList)
  | b :: _ =>
    if b = 10 then return some (Launch.lineOf (Launch.withoutReturn sofar.toList))
    typedAfter? (sofar ++ byte)

/-- The next line of the standard input. -/
def typed? : IO (Option Launch.Line) := typedAfter? .empty

/-- Prints `message` as an error; the exit code is 1. -/
def fail (message : String) : IO UInt32 := do
  IO.eprintln ("Error: " ++ message)
  return 1

/-! ## The server -/

/-- The queue of one connection and the task of `spawn_connection_writer`. -/
structure Seat where
  queue : Std.CloseableChannel Notice
  written : AsyncTask Unit

/-- `Server`: the hub and the queues of all connections. -/
structure Service where
  hub : Hub KeyStream
  seats : Std.TreeMap PlayerId Seat := ∅

/-- `spawn_connection_writer`: frames from the queue until it is closed or a notice cannot be
encoded or sent. -/
partial def writeQueue (stream : Stream) (queue : Std.CloseableChannel Notice) : Async Unit := do
  match ← Async.ofTask (← queue.recv) with
  | none => shut stream
  | some notice =>
    match Frame.ofPacket notice with
    | .error _ => shut stream
    | .ok bytes =>
      send stream bytes
      writeQueue stream queue

/-- A `Delivery` into the queue of its connection. -/
def deliver (seats : Std.TreeMap PlayerId Seat) : Delivery → BaseIO Unit
  | .send id notice => do
    if let some seat := seats[id]? then
      discard (seat.queue.send notice)
  | .finish id => do
    if let some seat := seats[id]? then
      discard seat.queue.close.toBaseIO

/-- `Hub.step` and its deliveries, if `still` holds of the hub. -/
def happen (service : Std.Mutex Service) (still : Hub KeyStream → Bool) (event : Hub.Event) :
    BaseIO Unit :=
  service.atomically do
    let s ← get
    if still s.hub then
      let (hub, deliveries) := s.hub.step event
      set { s with hub }
      deliveries.forM (deliver s.seats ·)

/-- What `Heard` means as an event of the hub. -/
def eventOf (id : PlayerId) : Heard → Hub.Event
  | .request r => .received id r
  | .lost => .lost id

/-- `spawn_connection_reader`: `Listener.hear` on the portions of a stream, while the hub holds the
connection. -/
partial def listenTo (service : Std.Mutex Service) (stream : Stream) (id : PlayerId)
    (listener : Listener) : Async Unit := do
  let (next, heard) := match ← portion? stream with
    | some bytes => listener.hear bytes
    | none => listener.hearEnd
  for what in heard do
    happen service (id ∈ ·.held) (eventOf id what)
  unless next = .done do
    listenTo service stream id next

/-- `accept_connection`: the number of the connection whose queue is `seat`. -/
def seatIn (service : Std.Mutex Service) (seat : Seat) : IO PlayerId :=
  service.atomically do
    let s ← get
    let id : PlayerId := ⟨s.hub.nextId⟩
    set { s with hub := (s.hub.step .connected).1, seats := s.seats.insert id seat }
    return id

/-- A new connection with its queue, its writer and its reader. -/
def welcome (service : Std.Mutex Service) (stream : Stream) : IO Unit := do
  stream.noDelay
  let queue ← Std.CloseableChannel.new
  let written ← (writeQueue stream queue).toIO
  let id ← seatIn service ⟨queue, written⟩
  discard (listenTo service stream id .start).toIO

/-- `welcome` for every connection that is accepted. -/
partial def acceptAll (service : Std.Mutex Service) (server : TCP.Socket.Server) : Async Unit := do
  try welcome service (← server.accept) catch _ => pure ()
  acceptAll service server

/-- The value in a mutex. -/
def current {α : Type} (mutex : Std.Mutex α) : IO α :=
  mutex.atomically get

/-- The lines of the standard input as `Hub.Event.console`, until the hub stops or they end; whether
it has stopped. -/
partial def console (service : Std.Mutex Service) : IO Bool := do
  match ← typed? with
  | none | some none => return false
  | some (some line) =>
    happen service (fun _ => true) (.console line)
    if (← current service).hub.running then console service
    else return true

/-- `from_entropy`: a seed from the system's random bytes. -/
def freshSeed : IO UInt64 := do
  let bytes ← IO.getRandomBytes 8
  return bytes.foldl (fun n b => n * 256 + b.toUInt64) 0

/-- `main` of the server, given its options. -/
def serve (options : ServerOptions) : IO UInt32 := do
  match address? options.host options.socket with
  | none => fail ("no address: " ++ options.host)
  | some address =>
    let server ← TCP.Socket.Server.mk
    server.bind address
    server.listen 1024
    if let some code := (Launch.seat Launch.maxRoom options.players).code.filter (· ≠ 0) then
      return code.toUInt32
    let seed ← match options.seed with
      | some n => pure (UInt64.ofNat n)
      | none => freshSeed
    let service ← Std.Mutex.new { hub := .new options.players (KeyStream.ofSeed seed) : Service }
    let accepting ← (acceptAll service server).toIO
    if ← console service then
      -- the goodbyes are written before the program ends
      for (_, seat) in (← current service).seats do
        discard (IO.wait seat.written)
    else
      discard (IO.wait accepting)
    return 0

/-! ## The client -/

/-- `prompt_name`, as `Launch.askName`. -/
partial def askName : IO (Except Launch.Failure String) := do
  IO.print Launch.namePrompt
  (← IO.getStdout).flush
  match ← typed? with
  | none => return .error Launch.nameless
  | some none => return .error .unreadable
  | some (some line) =>
    match Launch.nameIn? line with
    | some name => return .ok name
    | none =>
      IO.print Launch.nameHint
      askName

/-- The name of the client, as `Launch.chooseName`. -/
def chooseName (given : Option String) : IO (Except Launch.Failure String) := do
  match given with
  | none => askName
  | some name =>
    if PlayerName.isEntered name then return .ok name
    IO.print (Launch.nameComplaint name)
    askName

/-- A connection to `address` from the first of some local ports with which that works. -/
def reachFrom (address : Std.Net.SocketAddress) : List Nat → Async Stream
  | [] => throw (.userError ConnectFailure.addressInUse.message)
  | own :: others => do
    try
      let stream ← TCP.Socket.Client.mk
      stream.bind (.v4 ⟨.ofParts 0 0 0 0, .ofNat own⟩)
      stream.connect address
      return stream
    catch why => if others.isEmpty then throw why else reachFrom address others

/-- `connect` of the client, with or without a wanted local port. -/
def reach (address : Std.Net.SocketAddress) : Option Nat → Async Stream
  | some own => reachFrom address (socketCandidates own)
  | none => do
    let stream ← TCP.Socket.Client.mk
    stream.connect address
    return stream

/-- Shows the lines and sends the requests of an `Output`. -/
def carryOut (stream : Stream) (out : Terminal.Output) : Async Unit := do
  for line in out.shown do
    IO.println line
  for request in out.sent do
    if let .ok bytes := Frame.ofPacket request then
      send stream bytes
  if out.closes then
    shut stream

/-- `Terminal.step` and `carryOut`; whether the client still runs. -/
def react (stream : Stream) (terminal : Std.Mutex Terminal) (event : Terminal.Event) :
    Async Bool := do
  terminal.atomically do
    let (next, out) := (← get).step event
    set next
    carryOut stream out
    return next.status = .running

/-- The bytes of the server as events of the client. -/
partial def hearServer (stream : Stream) (terminal : Std.Mutex Terminal) : Async Unit := do
  let event : Terminal.Event := match ← portion? stream with
    | some bytes => .bytes bytes
    | none => .hangUp
  if ← react stream terminal event then
    hearServer stream terminal

/-- The lines of the standard input as events of the client. -/
partial def typeAll (stream : Stream) (terminal : Std.Mutex Terminal) : IO Unit := do
  let event : Terminal.Event := match ← typed? with
    | some (some line) => .typed line
    | none | some none => .inputEnds
  if ← (react stream terminal event).block then
    typeAll stream terminal

/-- The socket address of `host:port`, split at the last colon. -/
def serverAddress? (server : String) : Option Std.Net.SocketAddress :=
  let backwards := server.toList.reverse
  let socket := (backwards.takeWhile (· ≠ ':')).reverse
  let host := (backwards.dropWhile (· ≠ ':')).tail.reverse
  (Options.socket? (.ofList socket)).bind (address? (.ofList host))

/-- `main` of the client, given its options and its name. -/
def play (options : ClientOptions) (name : String) : IO UInt32 := do
  match serverAddress? options.server with
  | none => fail ("no address: " ++ options.server)
  | some address =>
    let stream ← (reach address options.localSocket).block
    stream.noDelay
    match Terminal.start name with
    | .error why => fail why.message
    | .ok (start, out) =>
      IO.println Launch.acceptedLine
      (carryOut stream out).block
      let terminal ← Std.Mutex.new start
      discard (hearServer stream terminal).toIO
      typeAll stream terminal
      match (← current terminal).status with
      | .failed why => fail why.message
      | _ => return 0

/-! ## Both programs -/

/-- The wording of a failure. -/
def failureMessage : Launch.Failure → String
  | .told text => text
  | .system => ConnectFailure.unreachable.message
  | .unreadable => "stream did not contain valid UTF-8"
  | .unsendable => Wire.Oversized.message ⟨0⟩

/-- Runs a program on what its arguments come to. -/
def runOn {α : Type} (reading : Reading α) (run : α → IO UInt32) : IO UInt32 := do
  match reading with
  | .wrong => return 2
  | .display text =>
    IO.print text
    return 0
  | .run options => try run options catch why => fail (toString why)

/-- The client program. -/
def client (options : ClientOptions) : IO UInt32 := do
  match ← chooseName options.name with
  | .error why => fail (failureMessage why)
  | .ok name => play options name

/-- The server program. -/
def server (options : ServerOptions) : IO UInt32 := do
  if options.players = 0 then fail (failureMessage Launch.playerless) else serve options

end Skirmish.Program

def main : List String → IO UInt32
  | "client" :: args =>
    Skirmish.Program.runOn (Skirmish.ClientOptions.read args) Skirmish.Program.client
  | "server" :: args =>
    Skirmish.Program.runOn (Skirmish.ServerOptions.read args) Skirmish.Program.server
  | _ => return 2
