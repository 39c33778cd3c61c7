import Std.Async.TCP
import Std.Async.Timer
import SpeedTest.Stream.Basic
import SpeedTest.Net.Address

/-!
Sockets of the machine on which the program runs, and operations on streams carried out on them.

An operation is a function on the state of a stream. It is run on what has arrived so far; where it
waits for more it is run again, from where it began, when more has come. What it has written leaves
at once and only once, and so does a shutdown. Where the machine fails at that, the operation is run
again on a stream that fails in the same way, and says itself what comes of it.
-/

namespace SpeedTest.Live

open Std.Async

/-- A connected socket. -/
abbrev Socket := TCP.Socket.Client

/-- A failure of the machine. -/
def ioError : IO.Error → IoError
  | .noFileOrDirectory _ _ _ => .system .noSuchFile
  | .alreadyExists _ 17 _ => .system .fileExists
  | .inappropriateType _ 20 _ => .system .notADirectory
  | .invalidArgument _ 36 _ => .system .nameTooLong
  | .resourceBusy 98 _ => .system .addressInUse
  | .resourceExhausted _ 24 _ => .system .tooManyFiles
  | e => .other (toString e)

/-- A length of time for a timer. -/
def span (milliseconds : Nat) : Std.Time.Millisecond.Offset := .ofNat milliseconds

/-- An address in the terms of the machine. -/
def toMachine (a : SocketAddress) : Std.Net.SocketAddress :=
  let port := UInt16.ofNat a.port
  match a.ip with
  | .v4 parts =>
    let part (i : Nat) : UInt8 := UInt8.ofNat (parts[i]?.getD 0)
    .v4 ⟨.ofParts (part 0) (part 1) (part 2) (part 3), port⟩
  | .v6 groups _ =>
    let group (i : Nat) : UInt16 := UInt16.ofNat (groups[i]?.getD 0)
    .v6 ⟨.ofParts (group 0) (group 1) (group 2) (group 3) (group 4) (group 5) (group 6) (group 7),
      port⟩

/-- An IP address of the machine. -/
def ofMachineIp : Std.Net.IPAddr → IpAddress
  | .v4 a => .v4 (a.octets.toList.map UInt8.toNat)
  | .v6 a => .v6 (a.segments.toList.map UInt16.toNat) 0

/-- An address of the machine. -/
def ofMachine : Std.Net.SocketAddress → SocketAddress
  | .v4 a => ⟨ofMachineIp (.v4 a.addr), a.port.toNat⟩
  | .v6 a => ⟨ofMachineIp (.v6 a.addr), a.port.toNat⟩

/-- What comes of waiting for bytes. -/
inductive Arrived where
  | bytes (b : ByteArray)
  | finished
  | failed (cause : IoError)
  /-- The deadline has passed. -/
  | late

/-- The most bytes that a socket is asked for at once. -/
def receiveSize : UInt64 := 65536

/-- Wait for bytes for a while. -/
def receiveWithin (socket : Socket) (milliseconds : Nat) : Async Arrived := do
  let timer ← Selector.sleep (span milliseconds)
  Selectable.one #[
    .case (socket.recvSelector receiveSize) fun
      | some b => return .bytes b
      | none => return .finished,
    .case timer fun _ => return .late]

/-- Wait for bytes, up to a deadline if there is one. -/
def receive (socket : Socket) (deadline : Option Nat) : IO Arrived := do
  try
    match deadline with
    | some t => (receiveWithin socket (t - (← IO.monoMsNow))).block
    | none =>
      match ← (socket.recv? receiveSize).block with
      | some b => return .bytes b
      | none => return .finished
  catch e => return .failed (ioError e)

/-- Add what has arrived to a stream. -/
def Arrived.into (a : Arrived) (s : Stream) : Stream :=
  match a with
  | bytes b => { s with arrivals := s.arrivals ++ [.chunk b.toList] }
  | finished => { s with ending := .finished }
  | failed cause => { s with arrivals := s.arrivals ++ [.failure cause] }
  | late => s

/-- A stream of which nothing has arrived yet. -/
def freshStream : Stream := .ofArrivals [] .silent

/-- What comes of sending bytes. -/
inductive Sent where
  | all
  | failed (cause : IoError)
  /-- The deadline has passed. -/
  | late
deriving Inhabited

/-- Send bytes for a while. -/
def transmitWithin (socket : Socket) (milliseconds : Nat) (bs : ByteArray) : Async Sent := do
  let sending : Async Sent := do
    socket.send bs
    return .all
  let waiting : Async Sent := do
    sleep (span milliseconds)
    return .late
  Async.race sending waiting

/-- Send bytes, up to a deadline if there is one. Behind the deadline nothing is sent. -/
def transmit (socket : Socket) (deadline : Option Nat) (bs : Bytes) : IO Sent := do
  if bs.isEmpty then return .all
  try
    match deadline with
    | some t =>
      let left := t - (← IO.monoMsNow)
      if left = 0 then return .late
      (transmitWithin socket left bs.toByteArray).block
    | none =>
      (socket.send bs.toByteArray).block
      return .all
  catch e => return .failed (ioError e)

/-- Shut a socket down, or say why it cannot be shut down. -/
def shutDown (socket : Socket) : IO (Option IoError) := do
  try
    socket.shutdown.block
    return none
  catch e => return some (ioError e)

/-- Where a state keeps the stream of a socket. -/
structure View (σ : Type) where
  get : σ → Stream
  set : Stream → σ → σ

/-- The view of a stream on its own. -/
def View.whole : View Stream := ⟨id, fun s _ => s⟩

/-- A socket, and the view of its stream. -/
structure Wire (σ : Type) where
  socket : Socket
  view : View σ

/-- What has left of the output of an operation. -/
structure Told where
  bytes : Nat
  isShut : Bool

/-- Run an operation that reads from one socket and writes to another, or to the same. `told` says
what has left already. Behind a deadline the operation waits for ever. -/
partial def performFrom {σ ε α : Type} (source sink : Wire σ) (deadline : Option Nat)
    (told : Told) (x : Action σ ε α) (s : σ) : IO (Outcome ε α × σ) := do
  let (outcome, s') := x s
  let before := sink.view.get s
  let after := sink.view.get s'
  let settled := sink.view.set { after with sent := [] } s'
  match ← transmit sink.socket deadline (after.written.drop told.bytes) with
  | .late => return (.pending, settled)
  | .failed cause =>
    let stuck := { before with room := some told.bytes, writeFault := cause }
    performFrom source sink deadline told x (sink.view.set stuck s)
  | .all =>
    let shuts := decide (before.shutdowns < after.shutdowns)
    if let some cause ← if shuts && !told.isShut then shutDown sink.socket else pure none then
      let stuck := { before with shutdownFault := fun _ => some cause }
      performFrom source sink deadline ⟨after.written.length, true⟩ x (sink.view.set stuck s)
    else
      match outcome with
      | .done a => return (.done a, settled)
      | .failed e => return (.failed e, settled)
      | .pending =>
        match ← receive source.socket deadline with
        | .late => return (.pending, settled)
        | arrived =>
          let s := source.view.set (arrived.into (source.view.get s)) s
          performFrom source sink deadline ⟨after.written.length, shuts⟩ x s

/-- Run an operation that reads from one socket and writes to another. -/
def performBetween {σ ε α : Type} (source sink : Wire σ) (x : Action σ ε α) (s : σ) :
    IO (Outcome ε α × σ) :=
  performFrom source sink none ⟨0, false⟩ x s

/-- Run an operation on a socket, up to a deadline if there is one. -/
def perform {σ ε α : Type} (wire : Wire σ) (deadline : Option Nat) (x : Action σ ε α) (s : σ) :
    IO (Outcome ε α × σ) :=
  performFrom wire wire deadline ⟨0, false⟩ x s

end SpeedTest.Live
