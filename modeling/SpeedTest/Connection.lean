import SpeedTest.Stream.Peek
import SpeedTest.WebSocket.Link
import SpeedTest.Wire.Transfer
import SpeedTest.Wire.Message
import SpeedTest.Net.Address

/-!
Control connections: frames in both directions over one of two transports.

On a raw stream, frames follow each other without gaps. On a WebSocket, each binary message holds
one frame. Once a connection has been closed, by whichever operation and whether or not that
succeeded, it reads and writes nothing any more.
-/

namespace SpeedTest

/-- How frames travel. -/
inductive Transport where
  | raw
  | webSocket
deriving Repr, DecidableEq

def Transport.name : Transport → String
  | raw => "raw"
  | webSocket => "websocket"

/-- The frame of the next message on a WebSocket. Pings and pongs are passed over, and every other
event answers for itself alone. Each event must leave less to come, as `left` counts it. -/
def frameOfEvents {σ : Type} (left : σ → Nat)
    (next : Action σ WebSocket.Error (Option WebSocket.Event)) : Action σ ProtocolError Frame :=
  fun s =>
    match next s with
    | (.failed e, s') => (.failed (.webSocket e), s')
    | (.pending, s') => (.pending, s')
    | (.done none, s') => (.failed .closed, s')
    | (.done (some (.binary payload)), s') => Action.ofExcept (Frame.decode payload) s'
    | (.done (some (.text _)), s') => (.failed .notBinary, s')
    | (.done (some .close), s') => (.failed .closed, s')
    | (.done (some _), s') =>
      if left s' < left s then frameOfEvents left next s' else (.pending, s')
termination_by s => left s

/-- The stream or the link that carries a connection. -/
inductive Channel where
  | raw (stream : PeekStream)
  | webSocket (link : WebSocket.Link)

namespace Channel

def transport : Channel → Transport
  | raw _ => .raw
  | webSocket _ => .webSocket

/-- The stream underneath. -/
def stream : Channel → Stream
  | raw p => p.inner
  | webSocket l => l.stream

def read : Action Channel ProtocolError Frame := fun c =>
  match c with
  | raw p =>
    match Frame.readFrom PeekStream.read p with
    | (r, p') => (r, .raw p')
  | webSocket l =>
    match frameOfEvents WebSocket.Link.incoming WebSocket.Link.next l with
    | (r, l') => (r, .webSocket l')

/-- Send the encoding of a frame as one message. -/
def sendFrame (f : Frame) : Action WebSocket.Link ProtocolError Unit := do
  let payload ← Action.ofExcept f.encode
  (WebSocket.Link.send payload).mapError .webSocket

def write (f : Frame) : Action Channel ProtocolError Unit := fun c =>
  match c with
  | raw p =>
    match PeekStream.onInner (Frame.writeTo f) p with
    | (r, p') => (r, .raw p')
  | webSocket l =>
    match sendFrame f l with
    | (r, l') => (r, .webSocket l')

/-- What closing came upon. -/
inductive Closing where
  | released
  /-- The peer had closed the link before. -/
  | closedByPeer
deriving Repr, DecidableEq

def closeLink : Action WebSocket.Link ProtocolError Closing := fun l =>
  match WebSocket.Link.close l with
  | (.done (), l') => (.done .released, l')
  | (.pending, l') => (.pending, l')
  | (.failed e, l') =>
    if e = .connectionClosed ∨ e = .alreadyClosed then (.done .closedByPeer, l')
    else (.failed (.webSocket e), l')

/-- Shut the stream down, or start to close the link. -/
def close : Action Channel ProtocolError Closing := fun c =>
  match c with
  | raw p =>
    match PeekStream.shutdown p with
    | (.done (), p') => (.done .released, .raw p')
    | (.pending, p') => (.pending, .raw p')
    | (.failed e, p') => (.failed (.io e), .raw p')
  | webSocket l =>
    match closeLink l with
    | (r, l') => (r, .webSocket l')

end Channel

/-- A control connection. -/
structure Connection where
  channel : Channel
  peer : Option SocketAddress
  isClosed : Bool

namespace Connection

/-- A connection over a stream whose first bytes may have been looked at. -/
def ofPeekStream (p : PeekStream) (peer : Option SocketAddress) : Connection :=
  ⟨.raw p, peer, false⟩

/-- A connection over a WebSocket whose handshake is done. -/
def ofLink (l : WebSocket.Link) (peer : Option SocketAddress) : Connection :=
  ⟨.webSocket l, peer, false⟩

def transport (c : Connection) : Transport := c.channel.transport

def stream (c : Connection) : Stream := c.channel.stream

/-- An operation on the channel, as long as the connection is open. -/
def onOpen {α : Type} (x : Action Channel ProtocolError α) : Action Connection ProtocolError α :=
  fun c =>
    if c.isClosed then (.failed .closed, c)
    else
      match x c.channel with
      | (r, channel) => (r, { c with channel := channel })

/-- Read the next frame. -/
def read : Action Connection ProtocolError Frame := onOpen Channel.read

/-- Write a frame. -/
def write (f : Frame) : Action Connection ProtocolError Unit := onOpen (Channel.write f)

/-- Close the connection. What has been closed stays closed, and closing it again does nothing. -/
def close : Action Connection ProtocolError Channel.Closing := fun c =>
  if c.isClosed then (.done .released, c)
  else
    match Channel.close c.channel with
    | (r, channel) => (r, { c with channel := channel, isClosed := true })

/-- Send a message that is a text. -/
def send (kind : Kind) (text : String) : Action Connection ProtocolError Unit :=
  write (.ofMessage kind (.ofText text))

/-- Read the next message, which must be of the given kind. -/
def receive (expected : Kind) : Action Connection ProtocolError Message := do
  let f ← read
  Action.ofExcept (f.toMessage expected)

end Connection

end SpeedTest
