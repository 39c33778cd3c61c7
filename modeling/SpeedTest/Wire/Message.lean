import SpeedTest.Wire.Frame
import SpeedTest.Json.Number

/-!
Message bodies: JSON objects with a text `msg` and, at login, a text `tests`.

Reading accepts the members in any order, supplies the empty text and nothing for the two that may
be missing, passes over members with other names, and refuses a member that occurs twice. A list of
up to two elements is read as the two members in order.
-/

namespace SpeedTest

open Json

/-- The body of a control message. -/
structure Message where
  msg : String
  tests : Option String
deriving Repr, DecidableEq

namespace Message

/-- A message without a `tests` member. -/
def ofText (msg : String) : Message := ⟨msg, none⟩

/-- A member of an object: its name, a colon and its text. -/
def renderMember (name value : String) : Bytes :=
  renderText name.toList ++ 0x3A :: renderText value.toList

/-- The body of a message. A missing `tests` member is left out. -/
def render (m : Message) : Bytes :=
  0x7B :: (renderMember "msg" m.msg ++
    (match m.tests with
      | none => [0x7D]
      | some tests => 0x2C :: (renderMember "tests" tests ++ [0x7D])))

/-- The members read so far. -/
structure Draft where
  msg : Option String
  tests : Option (Option String)
deriving Repr, DecidableEq

/-- The message of a draft, with what is missing supplied. -/
def Draft.toMessage (d : Draft) : Message := ⟨d.msg.getD "", d.tests.getD none⟩

/-- The fault of a value that is neither a text nor whatever else was wanted. The value is read as
far as it takes to say what it is. -/
def refuse {α : Type} (wanted : Wanted) (input : Bytes) : Except Fault α :=
  let wrong (found : Found) (rest : Bytes) : Except Fault α :=
    faultAfter (.wrongType found wanted) rest
  match input with
  | [] => faultAt .expectedValue []
  | b :: rest =>
    let named (name : Bytes) (found : Found) : Except Fault α :=
      match skipIdent name rest with
      | .error f => .error f
      | .ok rest' => wrong found rest'
    let number (negative : Bool) (digits : Bytes) : Except Fault α :=
      match readNumber negative digits with
      | .error f => .error f
      | .ok (found, rest') => wrong found rest'
    if b = 0x6E then named [0x75, 0x6C, 0x6C] .null
    else if b = 0x74 then named [0x72, 0x75, 0x65] (.bool true)
    else if b = 0x66 then named [0x61, 0x6C, 0x73, 0x65] (.bool false)
    else if b = 0x2D then number true rest
    else if Bytes.isDigit b then number false (b :: rest)
    else if b = 0x22 then
      match readText rest with
      | .error f => .error f
      | .ok (cs, rest') => wrong (.text (Text.quoted (String.ofList cs))) rest'
    else if b = 0x5B then wrong .sequence input
    else if b = 0x7B then wrong .map input
    else faultAt .expectedValue input

/-- Read a value that must be a text. -/
def readValue (input : Bytes) : Except Fault (String × Bytes) :=
  match skipBlank input with
  | [] => faultAt .endInValue []
  | b :: rest =>
    if b = 0x22 then
      match readText rest with
      | .error f => .error f
      | .ok (cs, rest') => .ok (String.ofList cs, rest')
    else refuse .text (b :: rest)

/-- Read a value that must be a text or null. -/
def readOptional (input : Bytes) : Except Fault (Option String × Bytes) :=
  match skipBlank input with
  | [] => faultAt .endInValue []
  | b :: rest =>
    if b = 0x6E then
      match skipIdent [0x75, 0x6C, 0x6C] rest with
      | .error f => .error f
      | .ok rest' => .ok (none, rest')
    else
      match readValue (b :: rest) with
      | .error f => .error f
      | .ok (s, rest') => .ok (some s, rest')

/-- Pass over the colon behind a key. -/
def readColon (input : Bytes) : Except Fault Bytes :=
  match skipBlank input with
  | [] => faultAt .endInObject []
  | b :: rest => if b = 0x3A then .ok rest else faultAt .expectedColon (b :: rest)

/-- The fault of a member that occurs twice. It lies behind the key and, if the object ends there,
behind its end. -/
def duplicate {α : Type} (name : String) (input : Bytes) : Except Fault α :=
  match skipBlank input with
  | [] => faultAfter (.duplicateField name) []
  | b :: rest => faultAfter (.duplicateField name) (if b = 0x7D then rest else b :: rest)

/-- Read the value of the member with the given name into the draft. -/
def readMember (d : Draft) (name : List Char) (input : Bytes) : Except Fault (Draft × Bytes) :=
  if name = ['m', 's', 'g'] then
    if d.msg.isSome then duplicate "msg" input
    else do
      let (s, rest) ← readValue (← readColon input)
      return ({ d with msg := some s }, rest)
  else if name = ['t', 'e', 's', 't', 's'] then
    if d.tests.isSome then duplicate "tests" input
    else do
      let (s, rest) ← readOptional (← readColon input)
      return ({ d with tests := some s }, rest)
  else do
    let rest ← skipValue (← readColon input)
    return (d, rest)

/-- The opening quote of the next key, or the end of the object. -/
def nextKey (isFirst : Bool) (input : Bytes) : Except Fault (Option Bytes × Bytes) :=
  match skipBlank input with
  | [] => faultAt .endInObject []
  | b :: rest =>
    if b = 0x7D then .ok (none, rest)
    else if isFirst then
      if b = 0x22 then .ok (some rest, rest) else faultAt .keyNotText (b :: rest)
    else if b = 0x2C then
      match skipBlank rest with
      | [] => faultAt .endInValue []
      | c :: rest' =>
        if c = 0x22 then .ok (some rest', rest')
        else if c = 0x7D then faultAt .trailingComma (c :: rest')
        else faultAt .keyNotText (c :: rest')
    else faultAt .expectedObjectEnd (b :: rest)

/-- Read the members of an object up to its end. Each round reads at least the quotes of a key, so
the length of the text bounds their number. -/
def readMembers (rounds : Nat) (isFirst : Bool) (d : Draft) (input : Bytes) :
    Except Fault (Draft × Bytes) :=
  match rounds with
  | 0 => .ok (d, input)
  | rounds + 1 =>
    match nextKey isFirst input with
    | .error f => .error f
    | .ok (none, rest) => .ok (d, rest)
    | .ok (some key, _) =>
      match readText key with
      | .error f => .error f
      | .ok (name, rest) =>
        match readMember d name rest with
        | .error f => .error f
        | .ok (d', rest') => readMembers rounds false d' rest'

/-- Whether a further element follows in a list, and where it begins. -/
def nextElement (isFirst : Bool) (input : Bytes) : Except Fault (Bool × Bytes) :=
  match skipBlank input with
  | [] => faultAt .endInList []
  | b :: rest =>
    if b = 0x5D then .ok (false, b :: rest)
    else if isFirst then .ok (true, b :: rest)
    else if b = 0x2C then
      match skipBlank rest with
      | [] => faultAt .endInValue []
      | c :: rest' =>
        if c = 0x5D then faultAt .trailingComma (c :: rest') else .ok (true, c :: rest')
    else faultAt .expectedListEnd (b :: rest)

/-- Read the end of a list whose two elements have been read. -/
def endOfList (input : Bytes) : Except Fault Bytes :=
  match skipBlank input with
  | [] => faultAt .endInList []
  | b :: rest =>
    if b = 0x5D then .ok rest
    else if b = 0x2C then
      match skipBlank rest with
      | [] => faultAt .trailingCharacters []
      | c :: rest' =>
        if c = 0x5D then faultAt .trailingComma (c :: rest')
        else faultAt .trailingCharacters (c :: rest')
    else faultAt .trailingCharacters (b :: rest)

/-- Read the elements of a list. -/
def readElements (input : Bytes) : Except Fault (Draft × Bytes) := do
  let (more, rest) ← nextElement true input
  if !more then return (⟨none, none⟩, ← endOfList rest)
  let (msg, rest) ← readValue rest
  let (more, rest) ← nextElement false rest
  if !more then return (⟨some msg, none⟩, ← endOfList rest)
  let (tests, rest) ← readOptional rest
  return (⟨some msg, some tests⟩, ← endOfList rest)

/-- Read an object or a list. -/
def readDraft (input : Bytes) : Except Fault (Draft × Bytes) :=
  match skipBlank input with
  | [] => faultAt .endInValue []
  | b :: rest =>
    if b = 0x7B then readMembers (rest.length + 1) true ⟨none, none⟩ rest
    else if b = 0x5B then readElements rest
    else refuse .message (b :: rest)

/-- Read a message behind which nothing but blanks may stand. -/
def readAll (body : Bytes) : Except Fault Message :=
  match readDraft body with
  | .error f => .error f
  | .ok (d, rest) =>
    match skipBlank rest with
    | [] => .ok d.toMessage
    | b :: rest' => faultAt .trailingCharacters (b :: rest')

/-- Read a message body. -/
def read (body : Bytes) : Except ProtocolError Message :=
  match readAll body with
  | .ok m => .ok m
  | .error f => .error (.json (f.locate body))

end Message

namespace Frame

/-- The frame that carries a message. -/
def ofMessage (kind : Kind) (m : Message) : Frame := ⟨kind, m.render⟩

/-- The message in a frame of the expected kind. -/
def toMessage (f : Frame) (expected : Kind) : Except ProtocolError Message :=
  if f.kind = expected then Message.read f.body
  else .error (.unexpectedKind expected f.kind)

end Frame

end SpeedTest
