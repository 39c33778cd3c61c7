import SpeedTest.WebSocket.Error
import SpeedTest.Bytes

/-!
WebSocket frames as a server reads and writes them: read frames must be masked, written frames are
not.
-/

namespace SpeedTest.WebSocket

/-- What a frame carries. -/
inductive Opcode where
  | continuation
  | text
  | binary
  | close
  | ping
  | pong
deriving Repr, DecidableEq

namespace Opcode

def code : Opcode → Nat
  | continuation => 0
  | text => 1
  | binary => 2
  | close => 8
  | ping => 9
  | pong => 10

def ofCode? : Nat → Option Opcode
  | 0 => some continuation
  | 1 => some text
  | 2 => some binary
  | 8 => some close
  | 9 => some ping
  | 10 => some pong
  | _ => none

/-- Control frames may stand between the fragments of a message. -/
def isControl : Opcode → Bool
  | close | ping | pong => true
  | _ => false

/-- The name of an opcode in messages to people. -/
def name : Opcode → String
  | continuation => "CONTINUE"
  | text => "TEXT"
  | binary => "BINARY"
  | close => "CLOSE"
  | ping => "PING"
  | pong => "PONG"

end Opcode

/-- Everything of a frame in front of its payload. -/
structure Header where
  isFinal : Bool
  reserved : Bool
  opcode : Opcode
  mask : Option Bytes
  length : Nat
deriving Repr, DecidableEq

/-- Whether a text holds at least `n` bytes. -/
def holds (n : Nat) (bs : Bytes) : Bool :=
  match n with
  | 0 => true
  | n + 1 => !(bs.drop n).isEmpty

/-- Take `n` bytes off the front, if there are as many. -/
def cut? (n : Nat) (bs : Bytes) : Option (Bytes × Bytes) :=
  if holds n bs then some (bs.take n, bs.drop n) else none

/-- The length of a payload: seven bits, or the two or eight bytes that they announce. -/
def readLength? (second : Nat) (rest : Bytes) : Option (Nat × Bytes) :=
  let short := second % 128
  if short = 126 then (cut? 2 rest).map fun (bs, rest') => (Bytes.toNat bs, rest')
  else if short = 127 then (cut? 8 rest).map fun (bs, rest') => (Bytes.toNat bs, rest')
  else some (short, rest)

/-- The mask of a frame that has one. -/
def readMask? (second : Nat) (rest : Bytes) : Option (Option Bytes × Bytes) :=
  if second < 128 then some (none, rest)
  else (cut? 4 rest).map fun (bs, rest') => (some bs, rest')

/-- Read a header and the bytes behind it. `none` as long as the header is incomplete. -/
def Header.read? (input : Bytes) : Except Error (Option (Header × Bytes)) :=
  match input with
  | a :: b :: rest =>
    match readLength? b.toNat rest with
    | none => .ok none
    | some (length, rest) =>
      match readMask? b.toNat rest with
      | none => .ok none
      | some (mask, rest) =>
        match Opcode.ofCode? (a.toNat % 16) with
        | none => .error (.breach (.invalidOpcode (a.toNat % 16)))
        | some opcode =>
          .ok (some (⟨decide (128 ≤ a.toNat), decide (a.toNat / 16 % 8 ≠ 0), opcode, mask,
            length⟩, rest))
  | _ => .ok none

/-- Apply a mask of four bytes, over and over. Applying it twice changes nothing. -/
def applyMask (mask payload : Bytes) : Bytes :=
  payload.mapIdx fun i b => b ^^^ mask.getD (i % 4) 0

/-- The longest payload of one frame. -/
def maxFrameSize : Nat := 16777216

/-- The longest payload of a message in several frames. -/
def maxMessageSize : Nat := 67108864

/-- A frame whose payload is no longer masked. -/
structure Frame where
  isFinal : Bool
  reserved : Bool
  opcode : Opcode
  payload : Bytes
deriving Repr, DecidableEq

namespace Frame

/-- Read a frame and the bytes behind it. `none` as long as it is incomplete. The length is checked
as soon as the header is complete, the mask only when the whole frame is. -/
def read? (input : Bytes) : Except Error (Option (Frame × Bytes)) :=
  match Header.read? input with
  | .error e => .error e
  | .ok none => .ok none
  | .ok (some (h, rest)) =>
    if maxFrameSize < h.length then .error (.excess (.longMessage h.length maxFrameSize))
    else
      match cut? h.length rest with
      | none => .ok none
      | some (payload, rest') =>
        match h.mask with
        | none => .error (.breach .unmaskedFrame)
        | some mask => .ok (some (⟨h.isFinal, h.reserved, h.opcode, applyMask mask payload⟩, rest'))

/-- The length field of a written frame. -/
def lengthField (n : Nat) : Bytes :=
  if n < 126 then [UInt8.ofNat n]
  else if n < 65536 then 126 :: Bytes.ofNat 2 n
  else 127 :: Bytes.ofNat 8 n

/-- A final frame on the wire. -/
def render (opcode : Opcode) (payload : Bytes) : Bytes :=
  UInt8.ofNat (128 + opcode.code) :: (lengthField payload.length ++ payload)

end Frame

end SpeedTest.WebSocket
