import SpeedTest.Program
import SpeedTest.Log
import SpeedTest.Connection

/-!
Throughput tests as programs over the control connection that they share with their session.

A test may use the connection as it likes, close it, or fail. Beyond that it may ask things of type
`X` of the world outside, which answers `x` by a value of `R x`.
-/

namespace SpeedTest.SubTest

/-- What can be asked about a control connection. -/
structure Status where
  isClosed : Bool
  transport : Transport
  peer : Option SocketAddress
deriving Repr, DecidableEq

/-- What a test asks of its surroundings. -/
inductive Call (X : Type) where
  /-- Read a frame from the control connection. -/
  | read
  /-- Read a frame, and give up at the deadline for answers. -/
  | readInTime
  | write (f : Frame)
  | close
  | status
  | note (entry : Log.Entry)
  /-- Ask the world outside. -/
  | outside (x : X)

/-- The answers to a call. -/
abbrev Reply {X : Type} (R : X → Type) : Call X → Type
  | .read => Except ProtocolError Frame
  | .readInTime => Option (Except ProtocolError Frame)
  | .write _ => Except ProtocolError Unit
  | .close => Except ProtocolError Channel.Closing
  | .status => Status
  | .note _ => Unit
  | .outside x => R x

/-- The course of a test, or of a part of it. -/
abbrev Course {X : Type} (R : X → Type) (α : Type) := Program (Call X) (Reply R) α

end SpeedTest.SubTest

namespace SpeedTest

/-- A throughput test: its name in the log and its course, which yields a rate in kilobits per
second. -/
structure SubTest {X : Type} (R : X → Type) where
  name : String
  course : SubTest.Course R (Except Failure Binary64)

end SpeedTest
