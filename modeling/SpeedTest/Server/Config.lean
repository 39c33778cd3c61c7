import SpeedTest.Duration
import SpeedTest.Tls.Credentials

/-! The settings of a server, and those that its sessions share with their tests. -/

namespace SpeedTest

/-- The kind of a listener, which the data channels of its sessions share. -/
inductive ServerType where
  | raw
  | ws
  | wss
deriving Repr, DecidableEq

namespace ServerType

def name : ServerType → String
  | raw => "raw"
  | ws => "ws"
  | wss => "wss"

/-- The name with a capital, as it stands in a description. -/
def title : ServerType → String
  | raw => "Raw"
  | ws => "Ws"
  | wss => "Wss"

/-- The type with the given name, in any case. No letter outside of ASCII has one of these letters
as its small form. -/
def parse (s : String) : Except Failure ServerType :=
  let word := String.ofList (s.toList.map Char.toLower)
  if word = "raw" then .ok raw
  else if word = "ws" then .ok ws
  else if word = "wss" then .ok wss
  else .error (.ofMessage ("unknown server type: " ++ s))

end ServerType

/-- What sessions share with their tests. -/
structure ServerConfig where
  serverType : ServerType
  certPath : Option String
  keyPath : Option String
  testDuration : Duration
  /-- How long a test waits for the client at each step of its opening and for its report. -/
  handshakeTimeout : Duration
  credentials : Option Tls.Credentials
deriving Repr, DecidableEq

namespace ServerConfig

def default : ServerConfig := ⟨.raw, none, none, .ofSecs 10, .ofSecs 10, none⟩

/-- The same settings for a listener of another type. -/
def withServerType (c : ServerConfig) (t : ServerType) : ServerConfig := { c with serverType := t }

def withCredentials (c : ServerConfig) (k : Tls.Credentials) : ServerConfig :=
  { c with credentials := some k }

/-- The credentials, without which there is no TLS session. -/
def requireCredentials (c : ServerConfig) : Except Failure Tls.Credentials :=
  match c.credentials with
  | some k => .ok k
  | none => .error (.ofMessage "TLS session without a loaded certificate")

/-- The files of the certificate and the key. -/
def tlsPaths (c : ServerConfig) : Except Failure (String × String) :=
  match c.certPath, c.keyPath with
  | some cert, some key => .ok (cert, key)
  | _, _ => .error (.ofMessage "TLS requires both a certificate and a key")

/-- An optional path in a description. -/
def describePath : Option String → String
  | none => "None"
  | some path => "Some(" ++ Text.quoted path ++ ")"

/-- A description on one line. -/
def describe (c : ServerConfig) : String :=
  "ServerConfig \x7b server_type: " ++ c.serverType.title
    ++ ", cert_path: " ++ describePath c.certPath
    ++ ", key_path: " ++ describePath c.keyPath
    ++ ", test_duration: " ++ c.testDuration.describe
    ++ ", handshake_timeout: " ++ c.handshakeTimeout.describe
    ++ ", tls: " ++ (if c.credentials.isSome then "true" else "false") ++ " \x7d"

end ServerConfig

/-- Where a server listens. -/
structure ListenConfig where
  legacyAddr : String
  httpAddr : String
  tlsAddr : Option String
  prometheusPort : Option Nat
deriving Repr, DecidableEq

namespace ListenConfig

/-- The port for clients on the raw stream. -/
def legacyPort : Nat := 3001

/-- The port for WebSocket clients. -/
def httpPort : Nat := 3002

def default : ListenConfig :=
  ⟨":" ++ toString legacyPort, "127.0.0.1:" ++ toString httpPort, none, none⟩

end ListenConfig

end SpeedTest
