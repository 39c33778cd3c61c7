import SpeedTest.SubTest.Throughput
import SpeedTest.SubTest.DataChannel
import SpeedTest.Session.Stage

/-!
Data channels in memory: a world in which the client's side of the data channel is a stream that is
given beforehand, and in which time passes only where somebody waits.
-/

namespace SpeedTest.SubTest

/-- The world of the data channels of one session. -/
structure Loopback where
  config : ServerConfig
  /-- The port that is opened, or why none can be. -/
  port : Except IoError Nat
  /-- The stream on which the client opens its channel, if it opens one. -/
  arrival : Option Stream
  channel : Option DataChannel
  /-- How many chunks can be sent before the end of a test. -/
  rounds : Nat
  /-- How long a transfer takes. -/
  elapsed : Duration
  /-- How often a channel was closed. -/
  closes : Nat

namespace Loopback

/-- A world in which a test takes one second and has time for one chunk. -/
def ofClient (config : ServerConfig) (port : Except IoError Nat) (client : Option Stream) :
    Loopback :=
  ⟨config, port, client, none, if config.testDuration.toNanos = 0 then 0 else 1, .ofSecs 1, 0⟩

/-- The client's stream as it stands, on whichever side of the opening. -/
def clientStream (w : Loopback) : Option Stream :=
  match w.channel with
  | some c => some c.stream
  | none => w.arrival

/-- Wait for the client's channel. -/
def accept (w : Loopback) : Option (Except Failure Unit) × Loopback :=
  match w.arrival with
  | none => (none, w)
  | some s =>
    match DataChannel.accept w.config s with
    | (.done c, s') => (some (.ok ()), { w with arrival := some s', channel := some c })
    | (.failed e, s') => (some (.error e), { w with arrival := some s' })
    | (.pending, s') => (none, { w with arrival := some s' })

/-- Run a transfer on the channel. Without a channel nothing moves. -/
def transfer (move : DataChannel → (ByteCount × Except Failure Unit) × DataChannel)
    (w : Loopback) : Transfer × Loopback :=
  match w.channel with
  | none => (⟨.ok (), 0, w.elapsed⟩, w)
  | some c =>
    match move c with
    | ((count, outcome), c') => (⟨outcome, count.total, w.elapsed⟩, { w with channel := some c' })

/-- Answer what a test asks about its data channel. -/
def answer : Program.Answering DataRequest DataReply Loopback
  | .bind, w => (some w.port, w)
  | .accept, w =>
    match w.accept with
    | (r, w') => (some r, w')
  | .receive, w =>
    match w.transfer (DataChannel.receive .zero) with
    | (t, w') => (some t, w')
  | .transmit, w =>
    match w.transfer (DataChannel.transmit w.rounds .zero) with
    | (t, w') => (some t, w')
  | .close, w =>
    (some (), { w with channel := w.channel.map DataChannel.close, closes := w.closes + 1 })

end Loopback

/-- The two throughput tests of a session with the given settings. -/
def builtIn (config : ServerConfig) : Session.Tests DataReply :=
  ⟨upload config, download config⟩

end SpeedTest.SubTest
