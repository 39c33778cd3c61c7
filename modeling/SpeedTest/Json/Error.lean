import SpeedTest.Bytes

/-! Why a JSON text is refused, and where. -/

namespace SpeedTest.Json

/-- What a reader that wants a text or a message found instead. -/
inductive Found where
  | null
  | bool (value : Bool)
  | integer (value : Int)
  /-- A number that is no 64-bit integer, in its shortest form. -/
  | float (shown : String)
  /-- A text, quoted. -/
  | text (quoted : String)
  | sequence
  | map
deriving Repr, DecidableEq

def Found.describe : Found → String
  | .null => "null"
  | .bool value => "boolean `" ++ (if value then "true" else "false") ++ "`"
  | .integer value => "integer `" ++ toString value ++ "`"
  | .float shown => "floating point `" ++ shown ++ "`"
  | .text quoted => "string " ++ quoted
  | .sequence => "sequence"
  | .map => "map"

/-- What a reader wants. -/
inductive Wanted where
  | text
  | message
deriving Repr, DecidableEq

def Wanted.describe : Wanted → String
  | .text => "a string"
  | .message => "struct JsonMessage"

/-- Why a JSON text is refused. -/
inductive Cause where
  | endInValue
  | endInText
  | endInObject
  | endInList
  | expectedColon
  | expectedListEnd
  | expectedObjectEnd
  | expectedIdent
  | expectedValue
  | invalidNumber
  | numberOutOfRange
  | invalidEscape
  | unfinishedEscape
  | loneSurrogate
  | controlCharacter
  | invalidCodePoint
  | keyNotText
  | trailingComma
  | trailingCharacters
  | duplicateField (name : String)
  | wrongType (found : Found) (wanted : Wanted)
deriving Repr, DecidableEq

def Cause.message : Cause → String
  | endInValue => "EOF while parsing a value"
  | endInText => "EOF while parsing a string"
  | endInObject => "EOF while parsing an object"
  | endInList => "EOF while parsing a list"
  | expectedColon => "expected `:`"
  | expectedListEnd => "expected `,` or `]`"
  | expectedObjectEnd => "expected `,` or `\x7d`"
  | expectedIdent => "expected ident"
  | expectedValue => "expected value"
  | invalidNumber => "invalid number"
  | numberOutOfRange => "number out of range"
  | invalidEscape => "invalid escape"
  | unfinishedEscape => "unexpected end of hex escape"
  | loneSurrogate => "lone leading surrogate in hex escape"
  | controlCharacter => "control character (\\u0000-\\u001F) found while parsing a string"
  | invalidCodePoint => "invalid unicode code point"
  | keyNotText => "key must be a string"
  | trailingComma => "trailing comma"
  | trailingCharacters => "trailing characters"
  | duplicateField name => "duplicate field `" ++ name ++ "`"
  | wrongType found wanted =>
    "invalid type: " ++ found.describe ++ ", expected " ++ wanted.describe

/-- A refusal at a place in the text: the line, from one, and the column in it. -/
structure Error where
  cause : Cause
  line : Nat
  column : Nat
deriving Repr, DecidableEq

def Error.message (e : Error) : String :=
  e.cause.message ++ " at line " ++ toString e.line ++ " column " ++ toString e.column

/-- A refusal before its place is worked out: `left` bytes of the text were still unread. -/
structure Fault where
  cause : Cause
  left : Nat
deriving Repr, DecidableEq

/-- Where a refusal lies: lines end with a line feed, and columns count bytes. -/
def Fault.locate (body : Bytes) (f : Fault) : Error :=
  let before := body.take (body.length - f.left)
  ⟨f.cause, before.count 0x0A + 1, (before.reverse.takeWhile (· != 0x0A)).length⟩

end SpeedTest.Json
