/-! Log entries: what the program tells its operator. -/

namespace SpeedTest.Log

/-- How much an entry matters. -/
inductive Level where
  | trace
  | debug
  | info
  | warn
  | error
deriving Repr, DecidableEq

namespace Level

def name : Level → String
  | trace => "TRACE"
  | debug => "DEBUG"
  | info => "INFO"
  | warn => "WARN"
  | error => "ERROR"

/-- Levels in ascending order of weight. -/
def weight : Level → Nat
  | trace => 0
  | debug => 1
  | info => 2
  | warn => 3
  | error => 4

end Level

/-- The part of the program that an entry comes from. -/
inductive Source where
  | program
  | server
  | listener
  | routing
  | upgrade
  | session
  | upload
  | download
  | dataChannel
  | connection
  | splice
  | metrics
deriving Repr, DecidableEq

/-- The name of the program in the names of its parts. -/
def programSource : String := "ndt_legacy"

/-- The name by which the operator selects the entries of a part. -/
def Source.name : Source → String
  | program => programSource
  | server => programSource ++ "::serve"
  | listener => programSource ++ "::listener"
  | routing => programSource ++ "::sniff"
  | upgrade => programSource ++ "::ws"
  | session => programSource ++ "::control"
  | upload => programSource ++ "::subtest::c2s"
  | download => programSource ++ "::subtest::s2c"
  | dataChannel => programSource ++ "::subtest::data"
  | connection => programSource ++ "::conn"
  | splice => programSource ++ "::proxy"
  | metrics => programSource ++ "::metrics"

/-- An entry of a log. -/
structure Entry where
  level : Level
  source : Source
  text : String
deriving Repr, DecidableEq

namespace Source

def debug (s : Source) (text : String) : Entry := ⟨.debug, s, text⟩
def info (s : Source) (text : String) : Entry := ⟨.info, s, text⟩
def warn (s : Source) (text : String) : Entry := ⟨.warn, s, text⟩
def error (s : Source) (text : String) : Entry := ⟨.error, s, text⟩

end Source

/-- An entry on a line. -/
def Entry.render (e : Entry) : String := e.level.name ++ " " ++ e.text

end SpeedTest.Log
