import SpeedTest.WebSocket.Frame
import SpeedTest.Stream.Basic
import SpeedTest.Text.Utf8

/-!
The server's end of an open WebSocket connection.

A link delivers messages in order, each once. Pings are answered with pongs and closes with closes;
such an answer is held back and leaves with the next operation on the link. Once both sides have
closed, or the stream has ended, the link is terminated.
-/

namespace SpeedTest.WebSocket

/-- How far the closing of a link has come. -/
inductive Phase where
  | active
  | closedByUs
  | closedByPeer
  /-- The peer has answered our close. -/
  | acknowledged
  | terminated
deriving Repr, DecidableEq

/-- Whether frames of the peer are still expected. -/
def Phase.canRead : Phase → Bool
  | active | closedByUs => true
  | _ => false

/-- A message of the peer. -/
inductive Event where
  | text (payload : Bytes)
  | binary (payload : Bytes)
  | ping (payload : Bytes)
  | pong (payload : Bytes)
  | close
deriving Repr, DecidableEq

/-- An answer that is held back. -/
inductive Answer where
  | pong (payload : Bytes)
  | close (payload : Bytes)
deriving Repr, DecidableEq

def Answer.render : Answer → Bytes
  | .pong payload => Frame.render .pong payload
  | .close payload => Frame.render .close payload

/-- The fragments of a message whose last fragment has not arrived. -/
structure Partial where
  isText : Bool
  size : Nat
  /-- The pieces, last first. -/
  pieces : List Bytes
  /-- Where a reader of the text stands. -/
  cursor : Utf8.Cursor
deriving Repr, DecidableEq

/-- An open WebSocket connection over a byte stream. -/
structure Link where
  stream : Stream
  phase : Phase
  /-- Bytes that have arrived and are not part of a delivered frame yet. -/
  input : Bytes
  /-- Bytes that wait to be written. -/
  output : Bytes
  answer : Option Answer
  begun : Option Partial
  /-- Whether a read has failed. Later reads deliver nothing. -/
  ended : Bool

namespace Link

/-- A link whose handshake is done. -/
def ofStream (s : Stream) : Link := ⟨s, .active, [], [], none, none, false⟩

/-- How many bytes are still to be delivered. -/
def incoming (l : Link) : Nat := l.input.length + l.stream.incoming

/-- How much output is gathered before it is written without a flush. -/
def outputThreshold : Nat := 131072

/-- The most bytes that one read takes from the stream. -/
def pieceSize : Nat := 131072

/-- A failure of the stream. A peer that has closed may go away as it likes. -/
def ioError (l : Link) (e : IoError) : Error :=
  if (e = .resetWhileSending ∨ e = .system .connectionReset) ∧ !l.phase.canRead then
    .connectionClosed
  else .io e

/-- Write all gathered output. -/
def drain : Action Link Error Unit := fun l =>
  if _h : l.output = [] then (.done (), l)
  else
    match Stream.write l.output l.stream with
    | (.failed e, s) => (.failed (.io e), { l with stream := s })
    | (.pending, s) => (.pending, { l with stream := s })
    | (.done n, s) =>
      if _h' : n = 0 then (.failed (.io .resetWhileSending), { l with stream := s })
      else drain { l with stream := s, output := l.output.drop n }
termination_by l => l.output.length
decreasing_by
  have := List.length_pos_iff.mpr _h
  simp only [List.length_drop]; omega

/-- Gather a rendered frame. Output above the threshold is written at once. -/
def gather (frame : Bytes) : Action Link Error Unit := fun l =>
  let l' := { l with output := l.output ++ frame }
  if outputThreshold < l'.output.length then
    match drain l' with
    | (.failed (.io e), l'') => (.failed (ioError l'' e), l'')
    | r => r
  else (.done (), l')

/-- Hold back an answer. A held back close is not replaced. -/
def hold (a : Answer) (l : Link) : Link :=
  match l.answer with
  | some (.close _) => l
  | _ => { l with answer := some a }

/-- Gather the answer that is held back: whether there was one. When nothing more is to be read,
all output is written and the link is terminated. -/
def gatherAnswer : Action Link Error Bool := fun l =>
  let go : Action Link Error Bool := match l.answer with
    | none => Action.pure false
    | some a => do
      Action.modify fun l => { l with answer := none }
      gather a.render
      return true
  match go l with
  | (.done taken, l') =>
    if l'.phase.canRead then (.done taken, l')
    else
      match drain l' with
      | (.done (), l'') => (.failed .connectionClosed, { l'' with phase := .terminated })
      | (.failed e, l'') => (.failed e, l'')
      | (.pending, l'') => (.pending, l'')
  | r => r

/-- Write everything that waits, and flush the stream. -/
def flush : Action Link Error Unit := do
  let _ ← gatherAnswer
  drain
  (Action.focus Link.stream (fun s l => { l with stream := s }) Stream.flush).mapError .io

/-- The codes with which a peer may close. -/
def isAllowedCode (n : Nat) : Bool :=
  n == 1000 || n == 1001 || n == 1002 || n == 1003 || (1007 ≤ n && n ≤ 1013)
    || (3000 ≤ n && n ≤ 4999)

/-- The payload with which a close is answered: the code and reason of the peer, or a complaint
where the code is not allowed. -/
def closeAnswer (payload : Bytes) : Except Error Bytes :=
  match payload with
  | [] => .ok []
  | [_] => .error (.breach .invalidCloseSequence)
  | a :: b :: reason =>
    if (Utf8.decodeChars? reason).isNone then .error .invalidText
    else if isAllowedCode (Bytes.toNat [a, b]) then .ok payload
    else .ok (Bytes.ofNat 2 1002 ++ Bytes.ofAscii "Protocol violation")

/-- Take in a control frame. `none` where there is nothing to deliver. -/
def takeControl (f : Frame) (l : Link) : Except Error (Option Event) × Link :=
  if !f.isFinal then (.error (.breach .fragmentedControl), l)
  else if 125 < f.payload.length then (.error (.breach .controlTooBig), l)
  else
    match f.opcode with
    | .ping =>
      (.ok (some (.ping f.payload)),
        if l.phase = .active then hold (.pong f.payload) l else l)
    | .pong => (.ok (some (.pong f.payload)), l)
    | _ =>
      match closeAnswer f.payload with
      | .error e => (.error e, l)
      | .ok reply =>
        match l.phase with
        | .active =>
          (.ok (some .close), hold (.close reply) { l with phase := .closedByPeer })
        | .closedByUs => (.ok (some .close), { l with phase := .acknowledged })
        | _ => (.ok none, l)

/-- Add a fragment to a message. -/
def Partial.extend (p : Partial) (payload : Bytes) : Except Error Partial :=
  let size := p.size + payload.length
  if maxMessageSize < size then .error (.excess (.longMessage size maxMessageSize))
  else if p.isText then
    match Utf8.scan p.cursor [] payload with
    | none => .error .invalidText
    | some (cursor, _) => .ok ⟨true, size, payload :: p.pieces, cursor⟩
  else .ok ⟨false, size, payload :: p.pieces, p.cursor⟩

/-- The message whose last fragment has arrived. -/
def Partial.complete (p : Partial) : Except Error Event :=
  let whole := p.pieces.reverse.flatten
  if !p.isText then .ok (.binary whole)
  else if p.cursor.owed = 0 then .ok (.text whole)
  else .error .invalidText

/-- A message in a single frame. -/
def single (isText : Bool) (payload : Bytes) : Except Error Event :=
  if !isText then .ok (.binary payload)
  else if (Utf8.decodeChars? payload).isSome then .ok (.text payload)
  else .error .invalidText

/-- Take in a frame that carries a message or a fragment of one. -/
def takeData (f : Frame) (l : Link) : Except Error (Option Event) × Link :=
  match f.opcode, l.begun with
  | .continuation, none => (.error (.breach .unexpectedContinuation), l)
  | .continuation, some p =>
    match Partial.extend p f.payload with
    | .error e => (.error e, l)
    | .ok p' =>
      if f.isFinal then
        match Partial.complete p' with
        | .ok event => (.ok (some event), { l with begun := none })
        | .error e => (.error e, { l with begun := none })
      else (.ok none, { l with begun := some p' })
  | opcode, some _ => (.error (.breach (.expectedFragment opcode.name)), l)
  | opcode, none =>
    let isText := decide (opcode = .text)
    if f.isFinal then ((single isText f.payload).map some, l)
    else
      match Partial.extend ⟨isText, 0, [], .start⟩ f.payload with
      | .error e => (.error e, l)
      | .ok p => (.ok none, { l with begun := some p })

/-- Take in a frame. -/
def takeFrame (f : Frame) (l : Link) : Except Error (Option Event) × Link :=
  if !l.phase.canRead then (.error (.breach .receivedAfterClosing), l)
  else if f.reserved then (.error (.breach .reservedBits), l)
  else if f.opcode.isControl then takeControl f l
  else takeData f l

/-- Before a frame is read, an answer that is held back leaves. When nothing more is to be read, the
link is terminated. -/
def settle : Action Link Error Unit := fun l =>
  if l.answer.isSome then flush l
  else if l.phase.canRead then (.done (), l)
  else (.failed .connectionClosed, { l with phase := .terminated })

/-- Deliver the next message. Each round takes in a frame or a piece of the stream, so that the
bytes that are still to come bound their number. -/
def deliver (rounds : Nat) : Action Link Error Event := fun l =>
  match rounds with
  | 0 => (.pending, l)
  | rounds + 1 =>
    match Frame.read? l.input with
    | .error e => (.failed e, l)
    | .ok (some (f, rest)) =>
      match takeFrame f { l with input := rest } with
      | (.error e, l') => (.failed e, l')
      | (.ok (some event), l') => (.done event, l')
      | (.ok none, l') =>
        match settle l' with
        | (.done (), l'') => deliver rounds l''
        | (.failed e, l'') => (.failed e, l'')
        | (.pending, l'') => (.pending, l'')
    | .ok none =>
      match Stream.read pieceSize l.stream with
      | (.failed e, s) => (.failed (ioError l e), { l with stream := s })
      | (.pending, s) => (.pending, { l with stream := s })
      | (.done bs, s) =>
        if bs.isEmpty then
          (.failed (if l.phase = .closedByPeer ∨ l.phase = .acknowledged then .connectionClosed
            else .breach .resetWithoutClosing), { l with stream := s, phase := .terminated })
        else deliver rounds { l with stream := s, input := l.input ++ bs }

/-- Read the next message, sending answers that are held back first. -/
def receive : Action Link Error Event := fun l =>
  if l.phase = .terminated then (.failed .alreadyClosed, l)
  else
    match settle l with
    | (.done (), l') => deliver (2 * l'.incoming + 1) l'
    | (.failed e, l') => (.failed e, l')
    | (.pending, l') => (.pending, l')

/-- The next message, or `none` when there are no more. After a failure there are none. -/
def next : Action Link Error (Option Event) := fun l =>
  if l.ended then (.done none, l)
  else
    match receive l with
    | (.done event, l') => (.done (some event), l')
    | (.pending, l') => (.pending, l')
    | (.failed e, l') =>
      if e = .connectionClosed ∨ e = .alreadyClosed then (.done none, { l' with ended := true })
      else (.failed e, { l' with ended := true })

/-- Check that the link still sends. -/
def checkActive : Action Link Error Unit := fun l =>
  match l.phase with
  | .terminated => (.failed .alreadyClosed, l)
  | .active => (.done (), l)
  | _ => (.failed (.breach .sendAfterClosing), l)

/-- Write everything that waits. A link that is terminated by it has done its work. -/
def settleOutput : Action Link Error Unit := fun l =>
  match flush l with
  | (.failed .connectionClosed, l') => (.done (), l')
  | r => r

/-- Send a binary message. -/
def send (payload : Bytes) : Action Link Error Unit := do
  checkActive
  gather (Frame.render .binary payload)
  if ← gatherAnswer then flush
  settleOutput

/-- Start to close the link. -/
def close : Action Link Error Unit := do
  checkActive
  Action.modify fun l => { l with phase := .closedByUs }
  gather (Frame.render .close [])
  flush
  settleOutput

end Link

end SpeedTest.WebSocket
