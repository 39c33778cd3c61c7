import SpeedTest.Wire.Frame
import SpeedTest.Stream.Basic

/-! Frames on a byte stream: reading one, and writing one in a piece. -/

namespace SpeedTest

namespace Frame

/-- Read one frame. The kind is checked before the body is read. -/
def readFrom {σ : Type} (read : Nat → Action σ IoError Bytes) : Action σ ProtocolError Frame := do
  let head ← (readExact read headerLength).mapError .io
  match head with
  | k :: length =>
    match Kind.ofByte? k with
    | none => Action.fail (.unknownKind k)
    | some kind =>
      let body ← (readExact read (Bytes.toNat length)).mapError .io
      return ⟨kind, body⟩
  | [] => Action.fail (.io .earlyEnd)

/-- Write one frame and flush it. A frame that has no encoding touches nothing. -/
def writeTo (f : Frame) : Action Stream ProtocolError Unit := do
  let bs ← Action.ofExcept f.encode
  (Stream.writeAll bs).mapError .io
  Stream.flush.mapError .io

end Frame

end SpeedTest
