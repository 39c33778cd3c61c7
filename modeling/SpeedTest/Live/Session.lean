import SpeedTest.Live.Channel
import SpeedTest.Server.Service
import SpeedTest.Metrics.Histogram

/-! Sessions on sockets: what the services of a server do, carried out with the machine. -/

namespace SpeedTest.Live

open Std.Async

/-- Run a program whose effects the machine answers. -/
def runProgram {m : Type → Type} [Monad m] {E : Type} {Ans : E → Type} {α : Type}
    (answer : (e : E) → m (Ans e)) : Program E Ans α → m α
  | .done a => pure a
  | .perform e next => do
    let r ← answer e
    runProgram answer (next r)

/-- The view of the stream under a stream whose first bytes were looked at. -/
def peekView : View PeekStream := ⟨PeekStream.inner, fun s p => { p with inner := s }⟩

/-- What all sessions share: the log, the metrics, and the settings. -/
structure Setting where
  note : Log.Entry → IO Unit
  registry : IO.Ref Metrics.Registry
  config : ServerConfig

/-- A session under way. Its data channels are those of the machine. -/
abbrev Seat := Session.Surroundings DataState

namespace Seat

/-- Put a stream under a control connection. -/
def putStream (s : Stream) : Channel → Channel
  | .raw p => .raw { p with inner := s }
  | .webSocket l => .webSocket { l with stream := s }

/-- The view of the stream under the control connection. -/
def view : View Seat :=
  ⟨fun w => w.connection.stream, fun s w =>
    { w with connection.channel := putStream s w.connection.channel }⟩

/-- The answer to an effect, as an operation that waits for it. What is asked about data channels
is not answered here. -/
def answering (e : Session.Effect SubTest.DataRequest) :
    Action Seat Empty (Session.Response SubTest.DataReply e) := fun w =>
  match Session.answer (fun _ d => (none, d)) e w with
  | (some r, w') => (.done r, w')
  | (none, w') => (.pending, w')

/-- Pass on what has been put into the log and into the metrics. -/
def publish (setting : Setting) (w : Seat) : IO Seat := do
  for e in w.entries do setting.note e
  for (label, rate) in w.observations do setting.registry.modify (·.observe label rate)
  return { w with log := [], observed := [] }

/-- Answer an effect on the control connection, up to a deadline if there is one. -/
def await (setting : Setting) (socket : Socket) (deadline : Option Nat)
    (e : Session.Effect SubTest.DataRequest) :
    OptionT (StateT Seat IO) (Session.Response SubTest.DataReply e) := fun w => do
  let (r, w') ← perform ⟨socket, view⟩ deadline (answering e) w
  return (r.toExcept?.bind Except.toOption, ← publish setting w')

/-- Answer the effects of a session. -/
def answer (setting : Setting) (socket : Socket) :
    (e : Session.Effect SubTest.DataRequest) →
      OptionT (StateT Seat IO) (Session.Response SubTest.DataReply e)
  | .call (.outside r) => do
    let (a, d) ← answerData setting.config r (← get).outside
    modify ({ · with outside := d })
    return a
  | .call .readInTime => do
    let deadline ← deadlineIn setting.config.handshakeTimeout
    await setting socket (some deadline) (.call .read) |>.run
  | e => await setting socket none e

end Seat

/-- Run a session on a connection. `log` is what is in the log in front of it. -/
def serveOn (setting : Setting) (socket : Socket) (c : Connection) (log : List Log.Entry) :
    IO Unit := do
  let tests := SubTest.builtIn setting.config
  let script := Session.serve (fun t => (tests.get t).name) c.peer c.transport
  let session := runProgram (Seat.answer setting socket) (Session.staged tests script)
  discard <| session.run.run (← Seat.publish setting ⟨c, log, [], .closed⟩)

/-- Deal with a client that is to become a WebSocket client. -/
def attendLink (setting : Setting) (peer : SocketAddress) (socket : Socket) : IO Unit := do
  match ← perform ⟨socket, .whole⟩ none WebSocket.upgrade freshStream with
  | (.done (), s) => serveOn setting socket (.ofLink (.ofStream s) (some peer)) []
  | (.failed e, _) => setting.note (Server.upgradeEntry peer e)
  | (.pending, _) => return

/-- Deal with a client that is to become a WebSocket client over TLS. -/
def attendSecure (setting : Setting) (k : Tls.Credentials) (peer : SocketAddress)
    (socket : Socket) : IO Unit := do
  let (r, _) ← perform ⟨socket, .whole⟩ none (Tls.accept k) freshStream
  if let .failed e := r then setting.note (Server.openingEntry peer e)

/-- One direction of a splice: how far its copying has come, and the ends between which it
copies. -/
structure Lane (σ : Type) where
  copy : Copy
  source : σ
  sink : Stream

namespace Lane

variable {σ : Type}

/-- A step of the copying, which waits where there is none. -/
def step (read : Nat → Action σ IoError Bytes) : Action (Lane σ) Empty Unit := fun lane =>
  match lane.copy.step read lane.source lane.sink with
  | some (copy, source, sink) => (.done (), ⟨copy, source, sink⟩)
  | none => (.pending, lane)

/-- The end that is read from. -/
def sourceWire (socket : Socket) (v : View σ) : Wire (Lane σ) :=
  ⟨socket, fun lane => v.get lane.source, fun s lane =>
    { lane with source := v.set s lane.source }⟩

/-- The end that is written to. -/
def sinkWire (socket : Socket) : Wire (Lane σ) :=
  ⟨socket, Lane.sink, fun s lane => { lane with sink := s }⟩

/-- Copy until the direction has ended, and tell how. -/
partial def run (source sink : Wire (Lane σ)) (read : Nat → Action σ IoError Bytes)
    (lane : Lane σ) : IO (Except IoError Nat) := do
  match lane.copy.result? with
  | some result => return result
  | none =>
    let (_, lane') ← performBetween source sink (step read) lane
    run source sink read lane'

end Lane

/-- Join a client to the server for WebSockets: copy in both directions at once, and when both have
ended let the splice take its last steps. -/
def join (setting : Setting) (client target : Socket) (p : PeekStream) : IO Unit := do
  let upward ← IO.asTask
    (Lane.run (Lane.sourceWire client peekView) (Lane.sinkWire target) PeekStream.read
      ⟨.fresh, p, freshStream⟩)
    Task.Priority.dedicated
  let down ← Lane.run (Lane.sourceWire target .whole) (Lane.sinkWire client) Stream.read
    ⟨.fresh, freshStream, freshStream⟩
  let up ← IO.ofExcept upward.get
  let conclude : Action Splice.State Empty Unit := fun s => (.done (), s.stepJoin.getD s)
  let clientWire : Wire Splice.State :=
    ⟨client, fun s => s.client.inner, fun t s => { s with client.inner := t }⟩
  let targetWire : Wire Splice.State := ⟨target, Splice.State.target, fun t s =>
    { s with target := t }⟩
  let mut s := { Splice.start p freshStream with up := .ended up, down := .ended down }
  for wire in [clientWire, targetWire, targetWire] do
    s := (← perform wire none conclude s).2
  for e in s.log.reverse do setting.note e

/-- Connect to an address. -/
def dial (a : SocketAddress) : IO (Except IoError Socket) := do
  try
    let socket ← TCP.Socket.Client.mk
    (socket.connect (toMachine a)).block
    return .ok socket
  catch e => return .error (ioError e)

/-- Forward a client to the server for WebSockets. -/
def forward (setting : Setting) (uplink peer : SocketAddress) (client : Socket)
    (p : PeekStream) : IO Unit := do
  setting.note (Route.forwardEntry peer uplink.render)
  match ← dial uplink with
  | .error e => setting.note (Route.dialEntry peer uplink.render e)
  | .ok target => join setting client target p

/-- Greet a client on the raw stream and run a session with it. -/
def converse (setting : Setting) (peer : SocketAddress) (socket : Socket) (p : PeekStream) :
    IO Unit := do
  let (greeting, p') ← perform ⟨socket, peekView⟩ none Route.greet p
  serveOn setting socket (.ofPeekStream p' (some peer)) (Route.greetingLog peer greeting)

/-- Deal with a client whose first bytes decide. -/
def attendSniffed (setting : Setting) (uplink peer : SocketAddress) (socket : Socket) :
    IO Unit := do
  match ← perform ⟨socket, peekView⟩ none Route.sniff (.ofStream freshStream) with
  | (.pending, _) => return
  | (.failed e, _) => setting.note (Route.sniffEntry peer e)
  | (.done .http, p) => forward setting uplink peer socket p
  | (.done .legacy, p) => converse setting peer socket p

/-- Deal with a client as its service says. -/
def attend (note : Log.Entry → IO Unit) (registry : IO.Ref Metrics.Registry)
    (service : Server.Service) (peer : SocketAddress) (socket : Socket) : IO Unit :=
  let setting : Setting := ⟨note, registry, service.config⟩
  match service with
  | .sniffing _ uplink => attendSniffed setting uplink peer socket
  | .webSocket _ => attendLink setting peer socket
  | .secureWebSocket _ k => attendSecure setting k peer socket

end SpeedTest.Live
