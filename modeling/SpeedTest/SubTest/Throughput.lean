import SpeedTest.SubTest.Basic
import SpeedTest.Server.Config
import SpeedTest.Rate
import SpeedTest.Number.Reader
import SpeedTest.Number.Decimal
import SpeedTest.Text.Blank

/-!
The two throughput tests. Both name a data port, wait for the client to open a data channel on it,
move data for a while, and report. The upload is measured by the server alone. After the download
the client reports what it has measured, and is believed if that is a sensible number.
-/

namespace SpeedTest.SubTest

/-- What a throughput test asks about its data channel. -/
inductive DataRequest where
  /-- Open a port. -/
  | bind
  /-- Accept the client's channel, up to the deadline for answers. -/
  | accept
  /-- Receive for the duration of the test. -/
  | receive
  /-- Send for the duration of the test. -/
  | transmit
  | close
deriving Repr, DecidableEq

/-- What has moved over a data channel. -/
structure Transfer where
  outcome : Except Failure Unit
  bytes : UInt64
  elapsed : Duration

/-- The rate of a transfer in kilobits per second. -/
def Transfer.rate (t : Transfer) : Binary64 := SpeedTest.rate t.bytes t.elapsed

/-- The answers to a request. -/
abbrev DataReply : DataRequest → Type
  | .bind => Except IoError Nat
  | .accept => Option (Except Failure Unit)
  | .receive => Transfer
  | .transmit => Transfer
  | .close => Unit

/-- The course of a throughput test, or of a part of it. -/
abbrev Measurement := Course DataReply (Except Failure Binary64)

/-- End with a failure. -/
def failed (e : Failure) : Measurement := .done (.error e)

/-- Send a message and go on. -/
def say (kind : Kind) (text : String) (next : Measurement) : Measurement :=
  .perform (.write (.ofMessage kind (.ofText text))) fun
    | .ok () => next
    | .error e => failed (.ofProtocol e)

/-- How a passed deadline is told. -/
def deadlinePassed : Failure := .ofMessage "deadline has elapsed"

/-- The failure of a client that opens no data channel. -/
def noChannel (config : ServerConfig) : Failure :=
  deadlinePassed.during
    ("client did not open a " ++ config.serverType.name ++ " data connection within "
      ++ config.handshakeTimeout.describe)

/-- The failure of a client that reports nothing. -/
def noReport : Failure := deadlinePassed.during "client never reported its S2C rate"

/-- The failure to open a port. -/
def noPort (e : IoError) : Failure := (Failure.ofIo e).during "failed to bind data port"

/-- The places of a rate in a message. -/
def ratePlaces : Nat := 4

/-- A rate in a message. -/
def showRate (rate : Binary64) : String := rate.fixed ratePlaces

/-- Name a port, wait for the client's data channel, and give the start signal. -/
def openChannel (source : Log.Source) (label : String) (config : ServerConfig)
    (next : Measurement) : Measurement :=
  .perform (.outside .bind) fun
    | .error e => failed (noPort e)
    | .ok port =>
      .perform (.note (source.debug (label ++ " data port " ++ toString port))) fun _ =>
        say .testPrepare (toString port) <|
          .perform (.outside .accept) fun
            | none => failed (noChannel config)
            | some (.error e) => failed e
            | some (.ok ()) => say .testStart "" next

/-- Close the data channel behind a transfer, and go on if the transfer was a success. -/
def settle (t : Transfer) (next : Measurement) : Measurement :=
  .perform (.outside .close) fun _ =>
    match t.outcome with
    | .error e => failed e
    | .ok () => next

/-- The entry for an upload. -/
def uploadEntry (t : Transfer) : Log.Entry :=
  Log.Source.upload.info ("C2S complete: " ++ toString t.bytes.toNat ++ " bytes in "
    ++ t.elapsed.toBinary64.fixed 2 ++ "s, " ++ showRate t.rate ++ " kbps")

/-- The course of an upload. -/
def uploadCourse (config : ServerConfig) : Measurement :=
  openChannel .upload "C2S" config <|
    .perform (.outside .receive) fun t =>
      settle t <|
        .perform (.note (uploadEntry t)) fun _ =>
          say .testMessage (showRate t.rate) <|
            say .testFinalize "" <| .done (.ok t.rate)

/-- The rate that a client reports, if it is a finite number and not negative. -/
def reportedRate? (text : String) : Option Binary64 :=
  match Binary64.read? (Text.trim text) with
  | none => none
  | some x => if x.isFinite && Binary64.zero.le x then some x else none

/-- The entry for a report that is not believed. -/
def unusableEntry (text : String) : Log.Entry :=
  Log.Source.download.warn
    ("Client sent unusable S2C rate " ++ Text.quoted text ++ ", using server rate")

/-- Choose between the client's report and the server's own measurement. -/
def chooseRate (text : String) (own : Binary64) (next : Binary64 → Measurement) : Measurement :=
  match reportedRate? text with
  | some x => next x
  | none => .perform (.note (unusableEntry text)) fun _ => next own

/-- The entry for a download. -/
def downloadEntry (t : Transfer) (rate : Binary64) : Log.Entry :=
  Log.Source.download.info
    ("S2C complete: " ++ toString t.bytes.toNat ++ " bytes sent, server " ++ showRate t.rate
    ++ " kbps, reported " ++ showRate rate ++ " kbps")

/-- Wait for the client's report. -/
def awaitReport (next : String → Measurement) : Measurement :=
  .perform .readInTime fun
    | none => failed noReport
    | some (.error e) => failed (.ofProtocol e)
    | some (.ok f) =>
      match f.toMessage .testMessage with
      | .error e => failed (.ofProtocol e)
      | .ok m => next m.msg

/-- The course of a download. -/
def downloadCourse (config : ServerConfig) : Measurement :=
  openChannel .download "S2C" config <|
    .perform (.outside .transmit) fun t =>
      settle t <|
        say .testMessage (showRate t.rate) <|
          awaitReport fun text =>
            chooseRate text t.rate fun rate =>
              say .testFinalize "" <|
                .perform (.note (downloadEntry t rate)) fun _ => .done (.ok rate)

/-- The upload test. -/
def upload (config : ServerConfig) : SubTest DataReply := ⟨"c2s", uploadCourse config⟩

/-- The download test. -/
def download (config : ServerConfig) : SubTest DataReply := ⟨"s2c", downloadCourse config⟩

end SpeedTest.SubTest
