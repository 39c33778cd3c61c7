import SpeedTest.Route
import SpeedTest.Tls.Opening
import SpeedTest.WebSocket.Upgrade
import SpeedTest.SubTest.Loopback

/-!
What the listeners of a server do with those whom they accept.

There are three kinds. One sniffs: it talks to clients on the raw stream itself and forwards all
others to the second, which talks to WebSocket clients. The third talks to WebSocket clients over
TLS. Each holds the settings that its sessions share with their tests, with its own type in them.
-/

namespace SpeedTest.Server

/-- What a listener does with whoever it accepts. -/
inductive Service where
  | sniffing (config : ServerConfig) (uplink : SocketAddress)
  | webSocket (config : ServerConfig)
  | secureWebSocket (config : ServerConfig) (credentials : Tls.Credentials)
deriving Repr, DecidableEq

namespace Service

/-- The settings of the sessions that a service holds. -/
def config : Service → ServerConfig
  | sniffing c _ => c
  | webSocket c => c
  | secureWebSocket c _ => c

/-- The service of the port for clients on the raw stream. -/
def ofLegacy (base : ServerConfig) (uplink : SocketAddress) : Service :=
  .sniffing (base.withServerType .raw) uplink

/-- The service of the port for WebSocket clients. -/
def ofHttp (base : ServerConfig) : Service := .webSocket (base.withServerType .ws)

/-- The service of the port for WebSocket clients over TLS. -/
def ofTls (base : ServerConfig) (k : Tls.Credentials) : Service :=
  .secureWebSocket ((base.withServerType .wss).withCredentials k) k

/-- The tests that a service runs in its sessions. -/
def tests (s : Service) : Session.Tests SubTest.DataReply := SubTest.builtIn s.config

end Service

/-- The entry for a client whose opening fails. -/
def openingEntry (peer : SocketAddress) (e : Failure) : Log.Entry :=
  Log.Source.upgrade.warn ("TLS handshake with " ++ peer.render ++ " failed: " ++ e.message)

/-- The entry for a client that does not become a WebSocket client. -/
def upgradeEntry (peer : SocketAddress) (e : WebSocket.Error) : Log.Entry :=
  Log.Source.upgrade.debug ("WebSocket upgrade from " ++ peer.render ++ " failed: "
    ++ (ProtocolError.webSocket e).message)

variable {X : Type} {R : X → Type} {ξ : Type}

/-- Deal with a client that is to become a WebSocket client. -/
def attendLink (tests : Session.Tests R) (world : Program.Answering X R ξ) (peer : SocketAddress)
    (s : Stream) (outside : ξ) : Route.Handled ξ :=
  match WebSocket.upgrade s with
  | (.pending, s') => ⟨.waiting, s', [], [], outside⟩
  | (.failed e, s') => ⟨.abandoned, s', [upgradeEntry peer e], [], outside⟩
  | (.done (), s') =>
    let (result, t) := Session.serveOn tests world
      ⟨Connection.ofLink (.ofStream s') (some peer), [], [], outside⟩
    ⟨.session result, t.connection.stream, t.entries, t.observations, t.outside⟩

/-- Deal with a client that is to become a WebSocket client over TLS, which `secure` opens. -/
def attendSecure (secure : Action Stream Failure Stream) (tests : Session.Tests R)
    (world : Program.Answering X R ξ) (peer : SocketAddress) (s : Stream) (outside : ξ) :
    Route.Handled ξ :=
  match secure s with
  | (.pending, s') => ⟨.waiting, s', [], [], outside⟩
  | (.failed e, s') => ⟨.abandoned, s', [openingEntry peer e], [], outside⟩
  | (.done inner, s') => { attendLink tests world peer inner outside with client := s' }

/-- Deal with a client. `secure` opens TLS connections, and `dial` is what comes of dialling the
uplink. -/
def Service.attendOver (secure : Tls.Credentials → Action Stream Failure Stream)
    (service : Service) (tests : Session.Tests R) (world : Program.Answering X R ξ)
    (dial : Except IoError Stream) (peer : SocketAddress) (s : Stream) (outside : ξ) :
    Route.Handled ξ :=
  match service with
  | .sniffing _ uplink => Route.handle tests world ⟨uplink.render, dial⟩ peer s outside
  | .webSocket _ => attendLink tests world peer s outside
  | .secureWebSocket _ k => attendSecure (secure k) tests world peer s outside

/-- Deal with a client. -/
def Service.attend (service : Service) (tests : Session.Tests R)
    (world : Program.Answering X R ξ) (dial : Except IoError Stream) (peer : SocketAddress)
    (s : Stream) (outside : ξ) : Route.Handled ξ :=
  service.attendOver Tls.accept tests world dial peer s outside

end SpeedTest.Server
