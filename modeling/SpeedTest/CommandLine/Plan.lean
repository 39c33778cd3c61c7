import SpeedTest.CommandLine.Setting
import SpeedTest.Config.File
import SpeedTest.Log.Filter
import SpeedTest.Server.Config

/-!
What the program sets out to do: the settings that were given, completed by those of the
configuration file, and these by the built-in ones.

The log is set up first, before the test duration of the file is read. That is read even where a
duration was given.
-/

namespace SpeedTest.CommandLine

/-- What the program sets out to do. -/
structure Plan where
  listen : ListenConfig
  config : ServerConfig
deriving Repr, DecidableEq

/-- Where the entries of the log go, and which of them. -/
structure Journal where
  file : Option String
  filter : Log.Filter
deriving Repr, DecidableEq

/-- Why the program does not set out. -/
inductive Obstacle where
  | failure (e : Failure)
  /-- The program breaks down over the test duration of the file. -/
  | broken (text : String)
deriving Repr, DecidableEq

/-- The level of the log if none is given. -/
def defaultLevel : String := "info"

/-- The failure of a test duration in the file. -/
def durationFailure (text : String) (fault : Duration.Fault) : Failure :=
  .ofMessage ("invalid test_duration " ++ Text.quoted text ++ " in config file: " ++ fault.message)

/-- The test duration that a file sets. -/
def fileDuration (f : FileSettings) : Except Obstacle (Option Duration) :=
  match f.testDuration with
  | none => .ok none
  | some text =>
    match Duration.read text with
    | .ok d => .ok (some d)
    | .error (.fault fault) => .error (.failure (durationFailure text fault))
    | .error .overflow => .error (.broken text)

/-- Where the listeners are to listen. -/
def listenFor (o : Options) (f : FileSettings) : ListenConfig :=
  let base := ListenConfig.default
  { legacyAddr := (o.legacyAddr.or f.legacyAddr).getD base.legacyAddr
    httpAddr := (o.httpAddr.or f.httpAddr).getD base.httpAddr
    tlsAddr := o.tlsAddr.or f.tlsAddr
    prometheusPort := o.prometheus.or f.prometheusPort }

/-- The settings that sessions are to share with their tests. -/
def configFor (o : Options) (f : FileSettings) (duration : Option Duration) : ServerConfig :=
  let base := ServerConfig.default
  { base with
    certPath := o.cert.or f.cert
    keyPath := o.key.or f.key
    testDuration := (o.testDuration.or duration).getD base.testDuration }

/-- The variable of the environment with the operator's own rules about the log. -/
def rulesName : String := "RUST_LOG"

/-- The log that follows from what was given, from the configuration file, and from the operator's
own rules. -/
def journalFor (rules : String) (o : Options) (f : FileSettings) : Except Failure Journal :=
  match Log.Filter.read rules ((o.logLevel.or f.logLevel).getD defaultLevel) with
  | .error fault => .error fault.failure
  | .ok filter => .ok ⟨o.logFile.or f.logFile, filter⟩

/-- The plan that follows from what was given and from the configuration file. -/
def plan (o : Options) (f : FileSettings) : Except Obstacle Plan :=
  (fileDuration f).map fun duration => ⟨listenFor o f, configFor o f duration⟩

/-- How the program starts. The log comes first: where it fails, nothing comes of the plan. -/
structure Startup where
  journal : Except Failure Journal
  plan : Except Obstacle Plan

/-- How the program starts with what was given, the configuration file and the operator's own
rules. Nothing else is taken from the file. -/
def startup (rules : String) (o : Options) (f : FileSettings) : Startup :=
  ⟨journalFor rules o f, plan o f⟩

/-- A failure at length, with its causes in lines of their own. -/
def report (e : Failure) : String :=
  let causes := e.causes.tail
  let line (i : Nat) (cause : String) : String :=
    if causes.length = 1 then "    " ++ cause ++ "\n"
    else "    " ++ toString i ++ ": " ++ cause ++ "\n"
  "Error: " ++ e.headline ++ "\n"
    ++ (if causes.isEmpty then ""
      else "\nCaused by:\n" ++ String.join (causes.zipIdx.map fun (cause, i) => line i cause))

end SpeedTest.CommandLine
