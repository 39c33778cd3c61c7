import SpeedTest.Stream.Basic
import SpeedTest.Error
import SpeedTest.Tls.Credentials
import SpeedTest.Tls.Negotiation

/-!
The opening of a TLS connection, seen from the server: what it makes of the first bytes of a client.

A client that speaks no TLS, or whose greeting is refused, is mostly sent an alert and let go. A
client whose greeting is answered is never done with the opening.
-/

namespace SpeedTest.Tls

/-- Why a client's opening fails. -/
inductive OpeningFault where
  | contentType
  | version
  | emptyRecord
  | recordTooLarge
  /-- A message is not in order. -/
  | malformed
  | messageTooLarge
  /-- A message is interrupted by a record of another type. -/
  | interrupted
  /-- A message that does not belong at the beginning. -/
  | unexpectedMessage
  /-- The greeting and the beginning of another message share a record. -/
  | unaligned
  /-- An alert of an unknown level. -/
  | alertLevel
  /-- The client itself has given up. -/
  | alerted
  | tooManyWarnings
  | refused (why : Refusal)
  /-- The client's bytes end too early. -/
  | ended
deriving Repr, DecidableEq

namespace OpeningFault

def message : OpeningFault → String
  | contentType => "received corrupt message of type InvalidContentType"
  | version => "received corrupt message of type UnknownProtocolVersion"
  | emptyRecord => "received corrupt message of type InvalidEmptyPayload"
  | recordTooLarge => "received corrupt message of type MessageTooLarge"
  | malformed => "received corrupt message"
  | messageTooLarge => "received corrupt message of type HandshakePayloadTooLarge"
  | interrupted => "peer misbehaved: MessageInterleavedWithHandshakeMessage"
  | unexpectedMessage => "received unexpected message"
  | unaligned => "peer misbehaved: KeyEpochWithPendingFragment"
  | alertLevel | alerted => "received fatal alert"
  | tooManyWarnings => "peer misbehaved: TooManyWarningAlertsReceived"
  | refused why => why.message
  | ended => "tls handshake eof"

/-- The number of the alert that answers a fault, if one does. -/
def alert? : OpeningFault → Option UInt8
  | contentType | version | emptyRecord | recordTooLarge | malformed => some 50
  | unexpectedMessage | unaligned => some 10
  | alertLevel => some 47
  | refused why => why.alert?
  | messageTooLarge | interrupted | alerted | tooManyWarnings | ended => none

end OpeningFault

/-- What a client's first bytes amount to. -/
inductive Verdict where
  /-- More bytes must come. -/
  | incomplete
  | fault (what : OpeningFault)
  /-- They hold a greeting that is answered. -/
  | greeting
deriving Repr, DecidableEq

/-- The types of records. -/
def alertType : UInt8 := 0x15
def handshakeType : UInt8 := 0x16
def dataType : UInt8 := 0x17

/-- The types of records: changes of cipher, alerts, handshakes, data and heartbeats. -/
def isRecordType (b : UInt8) : Bool := 0x14 ≤ b && b ≤ 0x18

/-- The versions of records that are let pass: all whose first byte is a three, and a few old ones
and relatives. -/
def isRecordVersion (n : Nat) : Bool :=
  n / 256 == 0x03 || [0x0002, 0xFEFF, 0xFEFD, 0xFEFC].contains n

/-- From this size on a record is too large. -/
def recordLimit : Nat := 16384 + 2048

/-- What stands at the front of bytes. -/
inductive Front where
  | incomplete
  | fault (what : OpeningFault)
  | record (type : UInt8) (contents rest : Bytes)
deriving Repr, DecidableEq

/-- The record at the front of bytes. It is judged as far as it has come. -/
def front : Bytes → Front
  | [] => .incomplete
  | type :: rest =>
    if !isRecordType type then .fault .contentType
    else
      match rest with
      | major :: minor :: rest =>
        if !isRecordVersion (Bytes.toNat [major, minor]) then .fault .version
        else
          match rest with
          | hi :: lo :: rest =>
            let length := Bytes.toNat [hi, lo]
            if length = 0 && type ≠ dataType then .fault .emptyRecord
            else if recordLimit ≤ length then .fault .recordTooLarge
            else
              let contents := rest.take length
              if contents.length < length then .incomplete
              else .record type contents (rest.drop length)
          | _ => .incomplete
      | _ => .incomplete

/-- What has come so far: the messages that records have brought, as far as they have not been
judged, and the number of warnings. -/
structure Progress where
  messages : Bytes
  warnings : Nat
deriving Repr, DecidableEq

/-- Nothing has come. -/
def Progress.start : Progress := ⟨[], 0⟩

/-- The messages in bytes, each with its type, and the bytes of the one that is not complete. There
are at most `limit`. -/
def cutMessages (limit : Nat) (input : Bytes) : List (UInt8 × Bytes) × Bytes :=
  match limit, input with
  | limit + 1, type :: a :: b :: c :: rest =>
    let length := Bytes.toNat [a, b, c]
    let contents := rest.take length
    if contents.length < length then ([], input)
    else
      let (messages, behind) := cutMessages limit (rest.drop length)
      ((type, contents) :: messages, behind)
  | _, input => ([], input)

/-- The longest message. -/
def maxMessage : Nat := 0xFFFF

/-- Whether a message that is not complete says that it is too long. -/
def announcesTooMuch : Bytes → Bool
  | _ :: a :: b :: c :: _ => maxMessage < Bytes.toNat [a, b, c]
  | _ => false

/-- The type of greetings. -/
def helloType : UInt8 := 0x01

/-- Judge the first message, which shares its record with the beginning of another one or not. -/
def judgeMessage (key : PublicKey) (type : UInt8) (contents : Bytes) (isAligned : Bool) :
    Verdict :=
  if type ≠ helloType then .fault .unexpectedMessage
  else
    match Hello.read.whole? contents with
    | none => .fault .malformed
    | some h =>
      if !h.compressions.contains 0 then .fault (.refused .noNullCompression)
      else if !isAligned then .fault .unaligned
      else
        match h.refusal? key with
        | some why => .fault (.refused why)
        | none => .greeting

/-- Judge messages as far as they have come, of which none has been complete before. -/
def judgeMessages (key : PublicKey) (input : Bytes) : Verdict :=
  let (messages, behind) := cutMessages input.length input
  if messages.any (fun m => maxMessage < m.2.length) || announcesTooMuch behind then
    .fault .messageTooLarge
  else
    match messages with
    | [] => .incomplete
    | (type, contents) :: _ => judgeMessage key type contents behind.isEmpty

/-- The most warnings that are let pass. -/
def maxWarnings : Nat := 4

/-- Judge an alert. A warning is no reason to end the opening unless there are too many. -/
def judgeAlert (warnings : Nat) : Bytes → Verdict
  | [level, _] =>
    if level = 1 then if warnings < maxWarnings then .incomplete else .fault .tooManyWarnings
    else if level = 2 then .fault .alerted
    else .fault .alertLevel
  | _ => .fault .malformed

/-- Judge a record behind what has come so far. -/
def Progress.judge (key : PublicKey) (type : UInt8) (contents : Bytes) (p : Progress) :
    Verdict × Progress :=
  if type = handshakeType then
    let messages := p.messages ++ contents
    (judgeMessages key messages, { p with messages })
  else if !p.messages.isEmpty then (.fault .interrupted, p)
  else if type = alertType then
    (judgeAlert p.warnings contents, { p with warnings := p.warnings + 1 })
  else (.fault .unexpectedMessage, p)

/-- Judge records one after the other. There are at most `limit`. -/
def judgeRecords (key : PublicKey) (limit : Nat) (p : Progress) (input : Bytes) : Verdict :=
  match limit with
  | 0 => .incomplete
  | limit + 1 =>
    match front input with
    | .incomplete => .incomplete
    | .fault what => .fault what
    | .record type contents rest =>
      match p.judge key type contents with
      | (.incomplete, p') => judgeRecords key limit p' rest
      | (verdict, _) => verdict

/-- Judge a client's first bytes. -/
def judge (key : PublicKey) (input : Bytes) : Verdict :=
  judgeRecords key (input.length + 1) .start input

/-- The record that lets a client go. -/
def alertRecord (number : UInt8) : Bytes := [alertType, 0x03, 0x03, 0x00, 0x02, 0x02, number]

/-- Let a client go. -/
def dismiss (f : OpeningFault) (s : Stream) : Stream :=
  match f.alert? with
  | some number => (Stream.writeAll (alertRecord number) s).2
  | none => s

/-- The most bytes that one read takes during the opening. -/
def openingPieceSize : Nat := 4096

/-- Open a connection after the client has sent `got`: the stream inside of it. -/
def openingAfter (key : PublicKey) (got : Bytes) (s : Stream) :
    Outcome Failure Stream × Stream :=
  match Stream.read openingPieceSize s with
  | (.pending, s') => (.pending, s')
  | (.failed e, s') => (.failed (.ofIo e), s')
  | (.done bs, s') =>
    if bs.isEmpty then (.failed (.ofMessage OpeningFault.ended.message), s')
    else
      match judge key (got ++ bs) with
      | .greeting => (.pending, s')
      | .fault f => (.failed (.ofMessage f.message), dismiss f s')
      | .incomplete =>
        if s'.incoming < s.incoming then openingAfter key (got ++ bs) s' else (.pending, s')
termination_by s.incoming

/-- Open a connection. -/
def accept (k : Credentials) : Action Stream Failure Stream := openingAfter k.key []

end SpeedTest.Tls
