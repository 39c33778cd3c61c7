import SpeedTest.Connection
import SpeedTest.WebSocket.Upgrade
import SpeedTest.Tls.Opening
import SpeedTest.Server.Config
import SpeedTest.Rate

/-!
Data channels: the connections on which the data of a test moves. They are of the same kind as the
listener that accepted the control connection.
-/

namespace SpeedTest

/-- An open data channel. -/
inductive DataChannel where
  | raw (stream : Stream)
  | webSocket (link : WebSocket.Link)

namespace DataChannel

/-- The most bytes that are read or written at once. -/
def chunkSize : Nat := 8192

/-- What the server sends, over and over. -/
def filler : Bytes := List.replicate chunkSize 0x78

/-- The stream underneath. -/
def stream : DataChannel → Stream
  | raw s => s
  | webSocket l => l.stream

/-- How many bytes are still to arrive. -/
def incoming : DataChannel → Nat
  | raw s => s.incoming
  | webSocket l => l.incoming

/-- How a failure of a link is told. -/
def linkFailure (e : WebSocket.Error) : Failure := ⟨e.chain⟩

/-- One round of a transfer: how many bytes it adds, or `none` where it ends the transfer. -/
abbrev Round (σ : Type) := Action σ Failure (Option Nat)

/-- The round in which an operation is run once. `gain` says what its answer adds. -/
def round {σ ε α : Type} (gain : α → Option Nat) (tell : ε → Failure) (x : Action σ ε α) :
    Round σ := fun s =>
  match x s with
  | (.done a, s') => (.done (gain a), s')
  | (.failed e, s') => (.failed (tell e), s')
  | (.pending, s') => (.pending, s')

/-- A round on either kind of channel. -/
def onEither (onRaw : Round Stream) (onLink : Round WebSocket.Link) : Round DataChannel := fun c =>
  match c with
  | raw s =>
    match onRaw s with
    | (r, s') => (r, .raw s')
  | webSocket l =>
    match onLink l with
    | (r, l') => (r, .webSocket l')

/-- What bytes that were read add. Where there are none, the peer has finished. -/
def gainOfBytes (bs : Bytes) : Option Nat := if bs.isEmpty then none else some bs.length

/-- What an event adds. A close ends the transfer, and so does the end of the events. Messages that
are not binary count nothing and end nothing. -/
def gainOfEvent : Option WebSocket.Event → Option Nat
  | some (.binary payload) => some payload.length
  | some .close => none
  | some _ => some 0
  | none => none

/-- Read once. -/
def readRound : Round Stream := round gainOfBytes .ofIo (Stream.read chunkSize)

/-- Take the next event. -/
def eventRound {σ : Type} (next : Action σ WebSocket.Error (Option WebSocket.Event)) : Round σ :=
  round gainOfEvent linkFailure next

/-- Receive what comes next. -/
def receiveRound : Round DataChannel := onEither readRound (eventRound WebSocket.Link.next)

/-- Send one chunk. -/
def sendRound : Round DataChannel :=
  onEither (round some .ofIo (Stream.write filler))
    (round (fun _ => some chunkSize) linkFailure (WebSocket.Link.send filler))

/-- The count behind a round, and how the transfer ends if the round is its last. `none` stands for
a round that the deadline cuts short: it ends the transfer, and is no failure. What was counted
before a failure stays counted. -/
def tally (count : ByteCount) :
    Option (Except Failure (Option Nat)) → ByteCount × Option (Except Failure Unit)
  | some (.ok (some n)) => (count.add n, none)
  | some (.ok none) => (count, some (.ok ()))
  | some (.error e) => (count, some (.error e))
  | none => (count, some (.ok ()))

/-- Count over rounds until one of them ends the transfer. Each must leave less to come, as `left`
counts it. -/
def countRounds {σ : Type} (left : σ → Nat) (next : Round σ) (count : ByteCount) (s : σ) :
    (ByteCount × Except Failure Unit) × σ :=
  match next s with
  | (r, s') =>
    match tally count r.toExcept? with
    | (count', some outcome) => ((count', outcome), s')
    | (count', none) =>
      if left s' < left s then countRounds left next count' s' else ((count', .ok ()), s')
termination_by left s

/-- Count the bytes of binary messages until the peer closes, there are no more, a read fails or the
deadline passes. -/
def receiveEvents {σ : Type} (left : σ → Nat)
    (next : Action σ WebSocket.Error (Option WebSocket.Event)) (count : ByteCount) (s : σ) :
    (ByteCount × Except Failure Unit) × σ :=
  countRounds left (eventRound next) count s

/-- Count the bytes that arrive until the peer ends the transfer or the deadline passes. -/
def receive (count : ByteCount) (c : DataChannel) :
    (ByteCount × Except Failure Unit) × DataChannel :=
  countRounds incoming receiveRound count c

/-- Send chunks until the deadline, before which there is time for `rounds` of them. -/
def transmit (rounds : Nat) (count : ByteCount) (c : DataChannel) :
    (ByteCount × Except Failure Unit) × DataChannel :=
  match rounds with
  | 0 => ((count, .ok ()), c)
  | n + 1 =>
    match sendRound c with
    | (r, c') =>
      match tally count r.toExcept? with
      | (count', some outcome) => ((count', outcome), c')
      | (count', none) => transmit n count' c'

/-- Close the channel. What becomes of that does not matter. -/
def close : DataChannel → DataChannel
  | raw s => .raw (Stream.shutdown s).2
  | webSocket l => .webSocket (WebSocket.Link.close l).2

/-- Open a WebSocket channel on a stream. -/
def acceptLink : Action Stream Failure DataChannel := fun s =>
  match WebSocket.upgrade s with
  | (.done (), s') => (.done (.webSocket (.ofStream s')), s')
  | (.pending, s') => (.pending, s')
  | (.failed e, s') => (.failed (.ofProtocol (.webSocket e)), s')

/-- Open a channel on a stream that has been accepted. A channel over TLS needs the server's
credentials, and `secure` to open the connection that it runs in. -/
def acceptOver (secure : Tls.Credentials → Action Stream Failure Stream) (config : ServerConfig) :
    Action Stream Failure DataChannel := fun s =>
  match config.serverType with
  | .raw => (.done (.raw s), s)
  | .ws => acceptLink s
  | .wss =>
    match config.requireCredentials with
    | .error e => (.failed e, s)
    | .ok k =>
      match secure k s with
      | (.done inner, s') => ((acceptLink inner).1, s')
      | (.pending, s') => (.pending, s')
      | (.failed e, s') => (.failed e, s')

/-- Open a channel on a stream that has been accepted. -/
def accept (config : ServerConfig) : Action Stream Failure DataChannel :=
  acceptOver Tls.accept config

end DataChannel

end SpeedTest
