import Std.Async.DNS
import Std.Sync.CancellationToken
import SpeedTest.Live.Session
import SpeedTest.Metrics.Endpoint
import SpeedTest.Metrics.Page
import SpeedTest.Server.Script

/-! Servers on the machine: accept loops, and what a server asks, answered by sockets and files. -/

namespace SpeedTest.Live

open Std.Async

/-- What servers on the machine share. -/
structure Machine where
  note : Log.Entry → IO Unit
  registry : IO.Ref Metrics.Registry
  /-- Cancelled when the shutdown signal is given. -/
  stop : Std.CancellationToken
  /-- The sockets that listen and have no loop yet. -/
  listening : IO.Ref (List (SocketAddress × TCP.Socket.Server))
  /-- The loops, each with what cancels it and what ends with it. -/
  loops : IO.Ref (Array (Std.CancellationToken × Task (Except IO.Error Unit)))

/-- What a loop comes upon while it waits. -/
inductive Met where
  | stopped
  | aborted
  | client (socket : Socket) (peer : SocketAddress)
  | expired

/-- Carry out what an accept loop does. `socket` is that of the client it has accepted: the pause it
asks for, if it does. -/
def carryOut (m : Machine) (service : Server.Service) (socket : Option Socket) :
    List AcceptLoop.Deed → IO (Option Nat)
  | [] => return none
  | .note e :: rest => do
    m.note e
    carryOut m service socket rest
  | .dispatch peer :: rest => do
    if let some s := socket then
      discard <| IO.asTask (attend m.note m.registry service peer s) Task.Priority.dedicated
    carryOut m service socket rest
  | .pause delay :: rest => do
    discard <| carryOut m service socket rest
    return some delay
  | _ :: rest => carryOut m service socket rest

/-- A client that has been accepted. Of one that is gone already the address is not known. -/
def Met.ofSocket (socket : Socket) : Async Met := do
  try return .client socket (ofMachine (← socket.getPeerName))
  catch _ => return .client socket ⟨.anyV4, 0⟩

/-- Wait for what concerns a loop: for clients, or for the end of a pause. -/
def meet (m : Machine) (abort : Std.CancellationToken) (server : TCP.Socket.Server)
    (pause : Option Nat) : Async Met := do
  let ends : Array (Selectable Met) := #[
    .case m.stop.selector fun _ => return .stopped,
    .case abort.selector fun _ => return .aborted]
  match pause with
  | none => Selectable.one (ends.push (.case server.acceptSelector Met.ofSocket))
  | some delay =>
    let timer ← Selector.sleep (span delay)
    Selectable.one (ends.push (.case timer fun _ => return .expired))

/-- What happens to a loop next, and the socket of the client that it is offered, if it is: nothing
where the loop is given up. Before every turn the loop is told of the shutdown signal. It is kept
waiting only where it could do nothing in its turn. -/
def nextEvent (m : Machine) (abort : Std.CancellationToken) (server : TCP.Socket.Server)
    (pause : Option Nat) (l : AcceptLoop) :
    IO (Option (AcceptLoop.Event × Option Socket)) := do
  if !l.shutdown.requested && (← m.stop.isCancelled) then return some (.set true, none)
  let waits := l.phase = .trying || l.phase = .pausing && l.shutdown.notice?.isNone
  if !waits then return some (.turn .nobody, none)
  let met ← (try
      return .ok (← (meet m abort server pause).block)
    catch e => return .error (ioError e) : IO (Except IoError Met))
  match met with
  | .error cause => return some (.turn (.failure cause), none)
  | .ok .stopped => return some (.turn .nobody, none)
  | .ok .aborted => return none
  | .ok .expired => return some (.expire, none)
  | .ok (.client socket peer) => return some (.turn (.client peer), some socket)

/-- Run an accept loop. -/
partial def runLoop (m : Machine) (abort : Std.CancellationToken) (service : Server.Service)
    (server : TCP.Socket.Server) (pause : Option Nat) (l : AcceptLoop) : IO Unit := do
  if l.phase = .ended then return
  let some (event, socket) ← nextEvent m abort server pause l | return
  let (deeds, l') := l.react event
  runLoop m abort service server (← carryOut m service socket deeds) l'

/-- Answer those who ask for metrics on a socket: read until a reply can be given, and close. -/
partial def answerPage (m : Machine) (socket : Socket) (sent : Bytes) : IO Unit := do
  match Metrics.reply? (← m.registry.get) sent with
  | some r =>
    discard <| transmit socket none r.render
    discard <| shutDown socket
  | none =>
    match ← receive socket none with
    | .bytes b => answerPage m socket (sent ++ b.toList)
    | _ => return

/-- Run the loop that accepts those who ask for metrics. -/
partial def runEndpoint (m : Machine) (server : TCP.Socket.Server) (l : Metrics.Endpoint) :
    IO Unit := do
  let wait : Async Met :=
    Selectable.one #[
      .case m.stop.selector fun _ => return .stopped,
      .case server.acceptSelector Met.ofSocket]
  match l.result with
  | some (.ok ()) => return
  | some (.error e) => m.note (Metrics.unavailableEntry e)
  | none =>
    let met ← (try
        return .ok (← wait.block)
      catch e => return .error (ioError e) : IO (Except IoError Met))
    match met with
    | .error cause => runEndpoint m server (l.react (.turn false (.failure cause))).2
    | .ok (.client socket peer) =>
      discard <| IO.asTask (answerPage m socket []) Task.Priority.dedicated
      runEndpoint m server (l.react (.turn false (.client peer))).2
    | .ok _ => runEndpoint m server (l.run [.set true, .turn true .nobody]).2

/-- The contents of a file. -/
def readFile (path : String) : IO (Except IoError Bytes) := do
  try
    return .ok (← IO.FS.readBinFile path).toList
  catch e => return .error (ioError e)

/-- Load credentials from files. -/
def loadCredentials (certPath keyPath : String) : IO (Except Failure Tls.Credentials) := do
  let cert ← readFile certPath
  let key ← readFile keyPath
  return Tls.load (fun path => if path = certPath then cert else key) certPath keyPath

/-- The first address of a host, by its name. -/
def lookUp (host : String) (port : Nat) : IO (Except IoError SocketAddress) := do
  try
    match (← (DNS.getAddrInfo host "").block).toList with
    | ip :: _ => return .ok ⟨ofMachineIp ip, port⟩
    | [] => return .error .unknownHost
  catch _ => return .error .unknownHost

/-- Find the address that a text stands for, by its name if it is no address of its own. -/
def resolve (text : String) : IO (Except IoError SocketAddress) := do
  match SocketAddress.resolve text with
  | .error .hostOutOfReach =>
    match SocketAddress.splitPort? text.toList with
    | none => return .error .unknownHost
    | some (host, port) => lookUp (String.ofList host) (valueOfDigits port)
  | r => return r

/-- Answer what a server asks. -/
def Machine.answer (m : Machine) : (r : Server.Request) → IO (Server.Answer r)
  | .load cert key => loadCredentials cert key
  | .resolve text => resolve text
  | .bind a => do
    match ← listenOn a with
    | .error e => return .error e
    | .ok (server, bound) =>
      m.listening.modify ((bound, server) :: ·)
      return .ok bound
  | .spawn a service => do
    let abort ← Std.CancellationToken.new
    let task ← match (← m.listening.get).lookup a with
      | none => pure (Task.pure (.ok ()))
      | some server =>
        IO.asTask (runLoop m abort service server none (.start a (.watching false)))
          Task.Priority.dedicated
    m.loops.modify (·.push (abort, task))
    return (← m.loops.get).size - 1
  | .abort id => do
    if let some (abort, _) := (← m.loops.get)[id]? then abort.cancel
  | .offerMetrics port => do
    match ← listenOn (Metrics.address port) with
    | .error e => m.note (Metrics.unavailableEntry (.ofIo e))
    | .ok (server, _) =>
      m.note (Metrics.availableEntry port)
      discard <|
        IO.asTask (runEndpoint m server (.start (.watching false))) Task.Priority.dedicated
  | .awaitShutdown => do (← m.stop.wait).block
  | .awaitEnd id => do
    if let some (_, task) := (← m.loops.get)[id]? then discard <| IO.wait task
  | .note e => m.note e

/-- A machine on which nothing runs yet. -/
def Machine.start (note : Log.Entry → IO Unit) : IO Machine :=
  return ⟨note, ← IO.mkRef .empty, ← Std.CancellationToken.new, ← IO.mkRef [], ← IO.mkRef #[]⟩

/-- Run a server. -/
def Machine.run (m : Machine) (l : ListenConfig) (c : ServerConfig) : IO (Except Failure Unit) :=
  runProgram m.answer (Server.run l c)

end SpeedTest.Live
