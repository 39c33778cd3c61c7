import SpeedTest.Proofs.Server.Start
import SpeedTest.Proofs.Route.Greeting
import SpeedTest.Proofs.Route.Sniffing
import SpeedTest.Proofs.SubTest.Party

/-! The data channels of a running server are of the kind of the listener that accepted the control
connection, whatever kind the settings name with which the server was started. -/

namespace SpeedTest.Server

open SubTest (DataRequest DataReply Secure opened)
open Session (Surroundings Tests answer serveOn)

/-- How the WebSocket handshake on a stream ends: with a channel over a link on what is left of the
stream, or without a channel. -/
inductive Upgrades (client : Stream) : Outcome Failure DataChannel → Prop
  | linked {rest : Stream} (hUpgrade : WebSocket.upgrade client = (.done (), rest)) :
    Upgrades client (.done (.webSocket (.ofStream rest)))
  | refused {e : WebSocket.Error} {rest : Stream}
    (hUpgrade : WebSocket.upgrade client = (.failed e, rest)) :
    Upgrades client (.failed (.ofProtocol (.webSocket e)))
  | unfinished {rest : Stream} (hUpgrade : WebSocket.upgrade client = (.pending, rest)) :
    Upgrades client .pending

/-- How a client's data channel is opened, by the kind of the listener: not at all on the raw
stream, by the WebSocket handshake, or by that handshake inside a TLS connection, which is opened
with the listener's own credentials. -/
inductive Service.Opens (secure : Secure) (client : Stream) :
    Service → Outcome Failure DataChannel → Prop
  | raw {config : ServerConfig} {uplink : SocketAddress} :
    Opens secure client (.sniffing config uplink) (.done (.raw client))
  | webSocket {config : ServerConfig} {outcome : Outcome Failure DataChannel}
    (hUpgrades : Upgrades client outcome) : Opens secure client (.webSocket config) outcome
  | secured {config : ServerConfig} {k : Tls.Credentials} {inner rest : Stream}
    {outcome : Outcome Failure DataChannel} (hTls : secure k client = (.done inner, rest))
    (hUpgrades : Upgrades inner outcome) : Opens secure client (.secureWebSocket config k) outcome
  | insecure {config : ServerConfig} {k : Tls.Credentials} {e : Failure} {rest : Stream}
    (hTls : secure k client = (.failed e, rest)) :
    Opens secure client (.secureWebSocket config k) (.failed e)
  | stalled {config : ServerConfig} {k : Tls.Credentials} {rest : Stream}
    (hTls : secure k client = (.pending, rest)) :
    Opens secure client (.secureWebSocket config k) .pending

/-- The carrier of the control connections of a listener. -/
def Service.transport : Service → Transport
  | .sniffing _ _ => .raw
  | .webSocket _ | .secureWebSocket _ _ => .webSocket

/-- What a test hears of a client that may connect to its data port, and the data channel that it
has then. Only a channel that has been opened in the listener's way is an open one. -/
inductive Service.Hears (secure : Secure) (service : Service) :
    Option (Except IoError Stream) → Option (Except Failure Unit) → Option DataChannel → Prop
  | nobody {channel : Option DataChannel} : Hears secure service none none channel
  | broken {e : IoError} {channel : Option DataChannel} :
    Hears secure service (some (.error e)) (some (.error (.ofIo e))) channel
  | ready {client : Stream} {channel : DataChannel}
    (hOpens : service.Opens secure client (.done channel)) :
    Hears secure service (some (.ok client)) (some (.ok ())) (some channel)
  | refused {client : Stream} {e : Failure} {channel : Option DataChannel}
    (hOpens : service.Opens secure client (.failed e)) :
    Hears secure service (some (.ok client)) (some (.error e)) channel
  | late {client : Stream} {channel : Option DataChannel}
    (hOpens : service.Opens secure client .pending) :
    Hears secure service (some (.ok client)) none channel

/-- The settings of a service fit its kind, and are otherwise those of the server. -/
structure Service.Fits (base : ServerConfig) (service : Service) : Prop where
  testDuration : service.config.testDuration = base.testDuration
  handshakeTimeout : service.config.handshakeTimeout = base.handshakeTimeout
  channel : ∀ secure client,
    service.Opens secure client (DataChannel.acceptOver secure service.config client).1
  credentials : service.config.serverType = .wss → ∃ k, service.config.requireCredentials = .ok k

/-- The world outside of the sessions of a service, in which the clients' data channels are opened
under its settings. -/
structure DataWorld (config : ServerConfig) (ξ : Type) where
  answering : Program.Answering DataRequest DataReply ξ
  /-- How it opens TLS connections, of which nothing is assumed. -/
  secure : Secure
  /-- The client that connects to the data port before the deadline. -/
  client : ξ → Option (Except IoError Stream)
  /-- The data channel of the session. -/
  channel : ξ → Option DataChannel
  accept_eq : ∀ o, (answering .accept o).1 = some (opened secure config (client o))
  channel_eq : ∀ o s c, client o = some (.ok s) →
    (DataChannel.acceptOver secure config s).1 = .done c → channel (answering .accept o).2 = some c

/-- Data channels in memory are such a world. -/
def DataWorld.onLoopback (config : ServerConfig) : DataWorld config SubTest.Loopback where
  answering r w := SubTest.Loopback.answer r { w with config := config }
  secure := Tls.accept
  client w := w.arrival.map .ok
  channel := SubTest.Loopback.channel
  accept_eq w := by
    simp only [SubTest.Loopback.answer, SubTest.Loopback.accept]
    cases w.arrival with
    | none => rfl
    | some client =>
        simp only [Option.map_some, opened, DataChannel.accept]
        obtain ⟨r, rest⟩ := DataChannel.acceptOver Tls.accept config client
        cases r <;> rfl
  channel_eq w s c hClient hDone := by
    obtain ⟨client, hArrival, hSame⟩ := Option.map_eq_some_iff.mp hClient
    cases hSame
    simp only [SubTest.Loopback.answer, SubTest.Loopback.accept, hArrival, DataChannel.accept]
    generalize DataChannel.acceptOver Tls.accept config s = x at hDone
    obtain ⟨r, rest⟩ := x
    cases hDone
    rfl

section Sessions

variable {X : Type} {R : X → Type} {ξ : Type} {tests : Tests R}
  {world : Program.Answering X R ξ} {peer : SocketAddress} {client : Stream} {outside : ξ}
  {result : Option (Except SessionError SessionResult)}

end Sessions

end SpeedTest.Server
