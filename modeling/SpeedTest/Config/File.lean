import SpeedTest.IoError
import SpeedTest.Toml.Reader

/-!
Configuration files: settings that hold where nobody has given others. All of them are optional and
stand in the table `server`. Other keys and tables mean nothing.
-/

namespace SpeedTest

/-- What a configuration file may set. -/
structure FileSettings where
  legacyAddr : Option String
  httpAddr : Option String
  tlsAddr : Option String
  cert : Option String
  key : Option String
  testDuration : Option String
  prometheusPort : Option Nat
  logFile : Option String
  logLevel : Option String
deriving Repr, DecidableEq

namespace FileSettings

/-- No settings at all. -/
def empty : FileSettings := ⟨none, none, none, none, none, none, none, none, none⟩

/-- Why a file has no settings. -/
inductive Fault where
  /-- The bytes are no text. -/
  | notText
  /-- The text is no document, or a setting is not of its kind. -/
  | malformed
deriving Repr, DecidableEq

/-- A setting that is a text. -/
def text? : Toml.Node → Option String
  | .string s => some s
  | _ => none

/-- A setting that is a port. -/
def port? : Toml.Node → Option Nat
  | .integer (.ofNat n) => if n ≤ 65535 then some n else none
  | _ => none

/-- An optional setting: what is there must be of the right kind. -/
def field? {α : Type} (read? : Toml.Node → Option α) (fs : Toml.Fields) (key : String) :
    Option (Option α) :=
  match fs.lookup key with
  | none => some none
  | some n => (read? n).map some

/-- The settings in a table. -/
def ofFields? (fs : Toml.Fields) : Option FileSettings := do
  return {
    legacyAddr := ← field? text? fs "legacy_addr"
    httpAddr := ← field? text? fs "http_addr"
    tlsAddr := ← field? text? fs "tls_addr"
    cert := ← field? text? fs "cert"
    key := ← field? text? fs "key"
    testDuration := ← field? text? fs "test_duration"
    prometheusPort := ← field? port? fs "prometheus_port"
    logFile := ← field? text? fs "log_file"
    logLevel := ← field? text? fs "log_level" }

/-- The settings in an array that has all of them, in order. -/
def ofItems? : List Toml.Node → Option FileSettings
  | legacyAddr :: httpAddr :: tlsAddr :: cert :: key :: testDuration :: prometheusPort :: logFile
    :: logLevel :: _ => do
    return ⟨← text? legacyAddr, ← text? httpAddr, ← text? tlsAddr, ← text? cert, ← text? key,
      ← text? testDuration, ← port? prometheusPort, ← text? logFile, ← text? logLevel⟩
  | _ => none

/-- The settings of a document. A point in time stands for a table without any of them. -/
def ofDocument? (document : Toml.Fields) : Option FileSettings :=
  match document.lookup "server" with
  | none => some empty
  | some (.table _ fs) => ofFields? fs
  | some (.braces fs) => ofFields? fs
  | some .moment => some empty
  | some (.array items) => ofItems? items
  | some _ => none

/-- The settings of a file. -/
def read (file : Bytes) : Except Fault FileSettings :=
  match Utf8.decodeChars? file with
  | none => .error .notText
  | some cs =>
    match (Toml.read? cs).bind ofDocument? with
    | none => .error .malformed
    | some s => .ok s

/-- The settings that hold if there is such a file, or none. A file without settings is as good as
no file. -/
def load (file : Option Bytes) : FileSettings :=
  match file.map read with
  | some (.ok s) => s
  | _ => empty

/-- The directory of configuration files: the one that the environment sets, if it is set from the
root, or else the usual one in the home directory. -/
def directory (set home : Option String) : String :=
  let isSet (s : String) : Bool := s.toList.head? = some '/'
  match set.filter isSet, home.filter (! ·.isEmpty) with
  | some d, _ => d
  | none, some h => h ++ "/.config"
  | none, none => "."

/-- The file below the directory of configuration files. -/
def fileName : String := "ndt-legacy/config.toml"

end FileSettings

end SpeedTest
