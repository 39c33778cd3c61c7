import SpeedTest.Live.Socket
import SpeedTest.SubTest.Throughput
import SpeedTest.SubTest.DataChannel

/-! Data channels on sockets: what a test asks about its data channel, answered by the machine. -/

namespace SpeedTest.Live

open Std.Async

/-- The view of the stream under a data channel. -/
def channelView : View DataChannel :=
  ⟨DataChannel.stream, fun s c =>
    match c with
    | .raw _ => .raw s
    | .webSocket l => .webSocket { l with stream := s }⟩

/-- What a session knows of its data channel. -/
structure DataState where
  /-- The port on which a client is awaited. -/
  listening : Option TCP.Socket.Server
  /-- The channel that the client has opened. -/
  channel : Option (Socket × DataChannel)

def DataState.closed : DataState := ⟨none, none⟩

/-- How many clients may wait to be accepted. -/
def backlog : UInt32 := 1024

/-- Listen on an address: the socket, and the address that it got. -/
def listenOn (a : SocketAddress) : IO (Except IoError (TCP.Socket.Server × SocketAddress)) := do
  try
    let server ← TCP.Socket.Server.mk
    server.bind (toMachine a)
    server.listen backlog
    return .ok (server, ofMachine (← server.getSockName))
  catch e => return .error (ioError e)

/-- All IPv6 interfaces, and with them all IPv4 interfaces. -/
def dualStack : SocketAddress := ⟨.v6 (List.replicate 8 0) 0, 0⟩

/-- Listen on any port: over both kinds of addresses, or over IPv4 alone. -/
def listenAnywhere : IO (Except IoError (TCP.Socket.Server × SocketAddress)) := do
  match ← listenOn dualStack with
  | .ok r => return .ok r
  | .error _ => listenOn ⟨.anyV4, 0⟩

/-- Accept a client, up to a deadline. -/
def acceptUntil (server : TCP.Socket.Server) (deadline : Nat) : IO (Option Socket) := do
  let left := deadline - (← IO.monoMsNow)
  let wait : Async (Option Socket) := do
    let timer ← Selector.sleep (span left)
    Selectable.one #[
      .case server.acceptSelector fun c => return some c,
      .case timer fun _ => return none]
  wait.block

/-- Run rounds until one of them ends the transfer or is cut short by the deadline. -/
partial def runRounds (socket : Socket) (deadline : Nat) (next : DataChannel.Round DataChannel)
    (count : ByteCount) (c : DataChannel) :
    IO ((ByteCount × Except Failure Unit) × DataChannel) := do
  let (r, c') ← perform ⟨socket, channelView⟩ (some deadline) next c
  match DataChannel.tally count r.toExcept? with
  | (count', some outcome) => return ((count', outcome), c')
  | (count', none) => runRounds socket deadline next count' c'

/-- A deadline from now on. -/
def deadlineIn (d : Duration) : IO Nat := return (← IO.monoMsNow) + d.toMillis

/-- Move data over the channel for as long as a test takes. Without a channel nothing moves. -/
def transfer (config : ServerConfig) (next : DataChannel.Round DataChannel) :
    StateT DataState IO SubTest.Transfer := do
  let deadline ← deadlineIn config.testDuration
  let begun ← IO.monoNanosNow
  let (count, outcome) ← match (← get).channel with
    | none => pure (.zero, .ok ())
    | some (socket, c) =>
      let (moved, c') ← runRounds socket deadline next .zero c
      modify ({ · with channel := some (socket, c') })
      pure moved
  return ⟨outcome, count.total, .ofNanos ((← IO.monoNanosNow) - begun)⟩

/-- Accept the client's channel and open it, all in the time for answers. -/
def acceptChannel (config : ServerConfig) :
    StateT DataState IO (Option (Except Failure Unit)) := do
  let deadline ← deadlineIn config.handshakeTimeout
  let some server := (← get).listening | return none
  let some socket ← acceptUntil server deadline | return none
  match ← perform ⟨socket, .whole⟩ (some deadline) (DataChannel.accept config) freshStream with
  | (.pending, _) => return none
  | (.failed e, _) => return some (.error e)
  | (.done c, s) =>
    set (⟨none, some (socket, channelView.set s c)⟩ : DataState)
    return some (.ok ())

/-- Answer what a test asks about its data channel. -/
def answerData (config : ServerConfig) :
    (r : SubTest.DataRequest) → StateT DataState IO (SubTest.DataReply r)
  | .bind => do
    match ← listenAnywhere with
    | .error e => return .error e
    | .ok (server, a) =>
      set (⟨some server, none⟩ : DataState)
      return .ok a.port
  | .accept => do
    try acceptChannel config
    catch e => return some (.error (.ofIo (ioError e)))
  | .receive => transfer config DataChannel.receiveRound
  | .transmit => transfer config DataChannel.sendRound
  | .close => do
    if let some (socket, c) := (← get).channel then
      let close : Action DataChannel Failure Unit := fun c => (.done (), c.close)
      discard <| perform ⟨socket, channelView⟩ none close c
      set DataState.closed

end SpeedTest.Live
