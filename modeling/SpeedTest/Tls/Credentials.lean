import SpeedTest.Tls.Certificate
import SpeedTest.Tls.PrivateKey
import SpeedTest.Error

/-!
The certificate chain and the private key of a server, loaded from files. The key must be one that
can be used, and the first certificate must be about it. The others are sent along unseen.
-/

namespace SpeedTest.Tls

/-- What a server proves its identity with. -/
structure Credentials where
  chain : List Bytes
  key : PublicKey
deriving Repr, DecidableEq

/-- The contents of files, by their paths. -/
abbrev Files := String → Except IoError Bytes

/-- The certificates of a file, of which there must be one. -/
def loadCertificates (files : Files) (path : String) : Except Failure (List Bytes) :=
  match files path with
  | .error e => .error (.ofIo e)
  | .ok file =>
    match Pem.certificates file with
    | .error fault => .error (.ofMessage fault.message)
    | .ok [] => .error (.ofMessage ("No certificates found in " ++ path))
    | .ok chain => .ok chain

/-- The private key of a file, which must have one. -/
def loadKey (files : Files) (path : String) : Except Failure Pem.PrivateKey :=
  match files path with
  | .error e => .error (.ofIo e)
  | .ok file =>
    match Pem.privateKey file with
    | .error fault => .error (.ofMessage fault.message)
    | .ok none => .error (.ofMessage ("No private key found in " ++ path))
    | .ok (some key) => .ok key

/-- Why certificates and a key are of no use to a server. -/
inductive Mismatch where
  | key
  | certificate (fault : Certificate.Fault)
  /-- The certificate is about another key. -/
  | otherKey
deriving Repr, DecidableEq

def Mismatch.message : Mismatch → String
  | key => "unexpected error: failed to parse private key as RSA, ECDSA, or EdDSA"
  | certificate fault => fault.message
  | otherKey => "keys may not be consistent: KeyMismatch"

/-- The credentials with the given certificates and key. -/
def combine (chain : List Bytes) (key : Pem.PrivateKey) : Except Mismatch Credentials :=
  match PrivateKey.publicKey? key with
  | none => .error .key
  | some k =>
    match Certificate.keyInfo (chain.headD []) with
    | .error fault => .error (.certificate fault)
    | .ok info => if info = k.info then .ok ⟨chain, k⟩ else .error .otherKey

/-- Load the certificates, and then the key. -/
def load (files : Files) (certPath keyPath : String) : Except Failure Credentials :=
  match loadCertificates files certPath with
  | .error e => .error e
  | .ok chain =>
    match loadKey files keyPath with
    | .error e => .error e
    | .ok key =>
      match combine chain key with
      | .error why => .error (.ofMessage why.message)
      | .ok k => .ok k

end SpeedTest.Tls
