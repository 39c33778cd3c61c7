import SpeedTest.Error

/-!
Frames: one kind byte, the length of the body in two bytes, most significant first, and the body.
-/

namespace SpeedTest

/-- A control message before its body is interpreted. -/
structure Frame where
  kind : Kind
  body : Bytes
deriving Repr, DecidableEq

namespace Frame

/-- The bytes of a frame in front of its body. -/
def headerLength : Nat := 3

/-- The longest body whose length fits into the header. -/
def maxBodyLength : Nat := 65535

/-- The header of a frame whose body has the given length. -/
def header (kind : Kind) (length : Nat) : Bytes := kind.byte :: Bytes.ofNat 2 length

/-- The frame on the wire. Only a body that is too long has none. -/
def encode (f : Frame) : Except ProtocolError Bytes :=
  if f.body.length ≤ maxBodyLength then .ok (header f.kind f.body.length ++ f.body)
  else .error (.frameTooLarge f.body.length)

/-- The frame that fills the whole buffer. -/
def decode (buf : Bytes) : Except ProtocolError Frame :=
  match buf with
  | k :: hi :: lo :: body =>
    match Kind.ofByte? k with
    | none => .error (.unknownKind k)
    | some kind =>
      let declared := Bytes.toNat [hi, lo]
      if body.length = declared then .ok ⟨kind, body⟩
      else .error (.lengthMismatch declared body.length)
  | short => .error (.lengthMismatch headerLength short.length)

end Frame

end SpeedTest
