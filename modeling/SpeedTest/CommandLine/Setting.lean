import SpeedTest.Duration.Reader
import SpeedTest.Net.Address

/-!
The settings of the command `serve`, and the values that they take on the command line or from the
environment.
-/

namespace SpeedTest.CommandLine

/-- A setting. -/
inductive Setting where
  | legacyAddr
  | httpAddr
  | tlsAddr
  | cert
  | key
  | testDuration
  | prometheus
  | logFile
  | logLevel
deriving Repr, DecidableEq

namespace Setting

/-- All settings, in the order in which they are looked up in the environment. -/
def all : List Setting :=
  [legacyAddr, httpAddr, tlsAddr, cert, key, testDuration, prometheus, logFile, logLevel]

/-- The name on the command line, without its dashes. -/
def name : Setting → String
  | legacyAddr => "legacy-addr"
  | httpAddr => "http-addr"
  | tlsAddr => "tls-addr"
  | cert => "cert"
  | key => "key"
  | testDuration => "test-duration"
  | prometheus => "prometheus"
  | logFile => "log-file"
  | logLevel => "log-level"

/-- The setting with the given name. -/
def ofName? (n : String) : Option Setting := all.find? (·.name == n)

/-- The name in capitals, with underlines for dashes. -/
def capitals (s : Setting) : String :=
  String.ofList (s.name.toList.map fun c => if c = '-' then '_' else c.toUpper)

/-- How a setting is called where it is at fault. -/
def label (s : Setting) : String := "--" ++ s.name ++ " <" ++ s.capitals ++ ">"

/-- The variable of the environment that holds a setting. The port for metrics has none. -/
def environmentName? : Setting → Option String
  | prometheus => none
  | s => some ("NDT_" ++ s.capitals)

end Setting

/-- What was given for each setting. -/
structure Options where
  legacyAddr : Option String
  httpAddr : Option String
  tlsAddr : Option String
  cert : Option String
  key : Option String
  testDuration : Option Duration
  prometheus : Option Nat
  logFile : Option String
  logLevel : Option String
deriving Repr, DecidableEq

/-- Why a value does not fit its setting. -/
inductive ValueFault where
  /-- A path must not be empty. -/
  | emptyPath
  | duration (fault : Duration.Fault)
  | integer (fault : IntegerFault)
  | noPort (n : Int)
  /-- The program breaks down over a length of time. -/
  | overflow
deriving Repr, DecidableEq

/-- A value that is a path. -/
def readPath (value : String) : Except ValueFault String :=
  if value.isEmpty then .error .emptyPath else .ok value

/-- A value that is a length of time. -/
def readDuration (value : String) : Except ValueFault Duration :=
  match Duration.read value with
  | .ok d => .ok d
  | .error (.fault f) => .error (.duration f)
  | .error .overflow => .error .overflow

/-- A value that is a port. -/
def readPort (value : String) : Except ValueFault Nat :=
  match readInt64 value.toList with
  | .error f => .error (.integer f)
  | .ok (.ofNat n) => if n ≤ SocketAddress.maxPort then .ok n else .error (.noPort n)
  | .ok n => .error (.noPort n)

namespace Options

def empty : Options := ⟨none, none, none, none, none, none, none, none, none⟩

/-- Whether something was given for a setting. -/
def has (o : Options) : Setting → Bool
  | .legacyAddr => o.legacyAddr.isSome
  | .httpAddr => o.httpAddr.isSome
  | .tlsAddr => o.tlsAddr.isSome
  | .cert => o.cert.isSome
  | .key => o.key.isSome
  | .testDuration => o.testDuration.isSome
  | .prometheus => o.prometheus.isSome
  | .logFile => o.logFile.isSome
  | .logLevel => o.logLevel.isSome

/-- Give a value to a setting. -/
def give (o : Options) (value : String) : Setting → Except ValueFault Options
  | .legacyAddr => .ok { o with legacyAddr := some value }
  | .httpAddr => .ok { o with httpAddr := some value }
  | .tlsAddr => .ok { o with tlsAddr := some value }
  | .cert => (readPath value).map fun v => { o with cert := some v }
  | .key => (readPath value).map fun v => { o with key := some v }
  | .testDuration => (readDuration value).map fun v => { o with testDuration := some v }
  | .prometheus => (readPort value).map fun v => { o with prometheus := some v }
  | .logFile => .ok { o with logFile := some value }
  | .logLevel => .ok { o with logLevel := some value }

end Options

end SpeedTest.CommandLine
