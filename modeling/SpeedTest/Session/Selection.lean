import SpeedTest.Error

/-!
Which tests a client asks for. The request is a sum of codes, read as a two's-complement integer of
64 bits, and the plan runs the requested tests in a fixed order.
-/

namespace SpeedTest

/-- A throughput test. -/
inductive Test where
  /-- Client to server. -/
  | upload
  /-- Server to client. -/
  | download
deriving Repr, DecidableEq

namespace Test

/-- The bit of the request that stands for the test. -/
def bit : Test → Nat
  | upload => 1
  | download => 2

/-- The code of the test in an announcement. -/
def code (t : Test) : Nat := 1 <<< t.bit

/-- The label of the test in the metrics. -/
def label : Test → String
  | upload => "c2s"
  | download => "s2c"

/-- The name of the test in messages to people. -/
def name : Test → String
  | upload => "C2S"
  | download => "S2C"

end Test

/-- The tests and capabilities that a client asks for at login. -/
structure Selection where
  bits : Int
deriving Repr, DecidableEq

namespace Selection

/-- Whether the given bit of the request is set. Negative requests are read in two's
complement. -/
def hasBit (s : Selection) (i : Nat) : Bool := decide (s.bits >>> i % 2 = 1)

/-- The bit of the status capability. -/
def statusBit : Nat := 4

/-- Whether the client supports status messages. -/
def hasStatus (s : Selection) : Bool := s.hasBit statusBit

/-- The requested tests, in the order in which they run. -/
def plan (s : Selection) : List Test := [Test.upload, Test.download].filter fun t => s.hasBit t.bit

/-- Read the `tests` field of a login. -/
def parse (field : String) : Except SessionError Selection :=
  match readInt64 field.toList with
  | .ok bits => .ok ⟨bits⟩
  | .error fault => .error (.parse field fault)

end Selection

/-- The codes of the planned tests, separated by single spaces. -/
def announcement (plan : List Test) : String :=
  " ".intercalate (plan.map fun t => toString t.code)

end SpeedTest
