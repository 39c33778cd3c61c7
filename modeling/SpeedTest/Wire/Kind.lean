/-! The kinds of control messages and their one-byte codes. -/

namespace SpeedTest

/-- The kind of a control message. -/
inductive Kind where
  | commFailure
  | serverQueue
  | login
  | testPrepare
  | testStart
  | testMessage
  | testFinalize
  | error
  | results
  | logout
  | waiting
  | extendedLogin
deriving Repr, DecidableEq

namespace Kind

/-- The code of a kind on the wire. -/
def byte : Kind → UInt8
  | commFailure => 0
  | serverQueue => 1
  | login => 2
  | testPrepare => 3
  | testStart => 4
  | testMessage => 5
  | testFinalize => 6
  | error => 7
  | results => 8
  | logout => 9
  | waiting => 10
  | extendedLogin => 11

/-- The kind with the given code. Codes above eleven belong to no kind. -/
def ofByte? (b : UInt8) : Option Kind :=
  match b.toNat with
  | 0 => some commFailure
  | 1 => some serverQueue
  | 2 => some login
  | 3 => some testPrepare
  | 4 => some testStart
  | 5 => some testMessage
  | 6 => some testFinalize
  | 7 => some error
  | 8 => some results
  | 9 => some logout
  | 10 => some waiting
  | 11 => some extendedLogin
  | _ => none

/-- The name of a kind in messages to people. -/
def name : Kind → String
  | commFailure => "COMM_FAILURE"
  | serverQueue => "SRV_QUEUE"
  | login => "MSG_LOGIN"
  | testPrepare => "TEST_PREPARE"
  | testStart => "TEST_START"
  | testMessage => "TEST_MSG"
  | testFinalize => "TEST_FINALIZE"
  | error => "MSG_ERROR"
  | results => "MSG_RESULTS"
  | logout => "MSG_LOGOUT"
  | waiting => "MSG_WAITING"
  | extendedLogin => "MSG_EXTENDED_LOGIN"

@[simp] theorem ofByte?_byte (k : Kind) : ofByte? k.byte = some k := by cases k <;> rfl

end Kind

end SpeedTest
