import SpeedTest.Bytes

/-!
The head of an HTTP request: the request line, the header fields, and the blank line behind them.

A head is read from whatever has arrived so far. It may be complete, in which case the bytes behind
it are returned, or incomplete, or at fault no matter what follows.
-/

namespace SpeedTest.Http

/-- Why the head of a request is refused. -/
inductive HeadFault where
  | headerName
  | headerValue
  | newLine
  | token
  | version
  | tooManyFields
deriving Repr, DecidableEq

def HeadFault.message : HeadFault → String
  | headerName => "invalid header name"
  | headerValue => "invalid header value"
  | newLine => "invalid new line"
  | token => "invalid token"
  | version => "invalid HTTP version"
  | tooManyFields => "too many headers"

inductive Version where
  | http10
  | http11
deriving Repr, DecidableEq

def Version.name : Version → String
  | http10 => "HTTP/1.0"
  | http11 => "HTTP/1.1"

/-- A header field. -/
structure Field where
  name : Bytes
  value : Bytes
deriving Repr, DecidableEq

/-- The head of a request. -/
structure Head where
  method : Bytes
  target : Bytes
  version : Version
  fields : List Field
deriving Repr, DecidableEq

/-- Why a head cannot be read: something is missing, or something is wrong. -/
inductive Stop where
  | incomplete
  | fault (what : HeadFault)
deriving Repr, DecidableEq

/-- The bytes of methods and field names. -/
def isTokenByte (b : UInt8) : Bool :=
  let n := b.toNat
  (0x30 ≤ n && n ≤ 0x39) || (0x41 ≤ n && n ≤ 0x5A) || (0x61 ≤ n && n ≤ 0x7A)
    || n == 0x21 || (0x23 ≤ n && n ≤ 0x27) || n == 0x2A || n == 0x2B || n == 0x2D || n == 0x2E
    || n == 0x5E || n == 0x5F || n == 0x60 || n == 0x7C || n == 0x7E

/-- The bytes of request targets. -/
def isTargetByte (b : UInt8) : Bool :=
  (0x21 ≤ b.toNat && b.toNat ≤ 0x7E) || 0x80 ≤ b.toNat

/-- The bytes of field values. -/
def isValueByte (b : UInt8) : Bool :=
  b.toNat == 9 || (0x20 ≤ b.toNat && b.toNat ≤ 0x7E) || 0x80 ≤ b.toNat

def isSpace (b : UInt8) : Bool := b = 0x20 || b = 0x09

/-- Read the line feed behind a carriage return. -/
def readFeed (fault : HeadFault) : Bytes → Except Stop Bytes
  | [] => .error .incomplete
  | b :: rest => if b = 0x0A then .ok rest else .error (.fault fault)

/-- Read the end of a line: a line feed, or a carriage return and a line feed. -/
def readNewLine (fault : HeadFault) : Bytes → Except Stop Bytes
  | [] => .error .incomplete
  | b :: rest =>
    if b = 0x0D then readFeed fault rest
    else if b = 0x0A then .ok rest
    else .error (.fault fault)

/-- Pass over the empty lines in front of a request. -/
def skipEmptyLines : Bytes → Except Stop Bytes
  | [] => .error .incomplete
  | [b] => if b = 0x0D ∨ b = 0x0A then .error .incomplete else .ok [b]
  | b :: c :: rest =>
    if b = 0x0A then skipEmptyLines (c :: rest)
    else if b = 0x0D then
      if c = 0x0A then skipEmptyLines rest else .error (.fault .newLine)
    else .ok (b :: c :: rest)

/-- Read a word of bytes of the given class, up to and including the space behind it. -/
def readWord (isPart : UInt8 → Bool) (input : Bytes) : Except Stop (Bytes × Bytes) :=
  let word := input.takeWhile isPart
  match input.drop word.length with
  | [] => .error .incomplete
  | b :: rest =>
    if b = 0x20 ∧ word ≠ [] then .ok (word, rest) else .error (.fault .token)

/-- The text in front of a minor version number. -/
def versionLead : Bytes := Bytes.ofAscii "HTTP/1."

/-- Read the version. One that is incomplete is at fault as soon as no version begins with it. -/
def readVersion (input : Bytes) : Except Stop (Version × Bytes) :=
  let word := input.take 8
  if word.length < 8 then
    if word.isPrefixOf versionLead then .error .incomplete else .error (.fault .version)
  else if word = Bytes.ofAscii Version.http11.name then .ok (.http11, input.drop 8)
  else if word = Bytes.ofAscii Version.http10.name then .ok (.http10, input.drop 8)
  else .error (.fault .version)

/-- A value without the spaces at its end. -/
def trimEnd (value : Bytes) : Bytes := (value.reverse.dropWhile isSpace).reverse

/-- Read a field whose first byte has been checked. -/
def readField (input : Bytes) : Except Stop (Field × Bytes) :=
  let name := input.takeWhile isTokenByte
  match input.drop name.length with
  | [] => .error .incomplete
  | b :: rest =>
    if b ≠ 0x3A then .error (.fault .headerName)
    else
      let behind := rest.dropWhile isSpace
      let value := behind.takeWhile isValueByte
      match readNewLine .headerValue (behind.drop value.length) with
      | .error stop => .error stop
      | .ok rest' => .ok (⟨name, trimEnd value⟩, rest')

/-- Read at most `limit` fields and the blank line behind them. A field beyond the limit is only
refused when it is complete. `read` holds the fields before, last first. -/
def readFields (limit : Nat) (read : List Field) (input : Bytes) :
    Except Stop (List Field × Bytes) :=
  match input with
  | [] => .error .incomplete
  | b :: rest =>
    if b = 0x0D then (readFeed .newLine rest).map fun rest' => (read.reverse, rest')
    else if b = 0x0A then .ok (read.reverse, rest)
    else if !isTokenByte b then .error (.fault .headerName)
    else
      match readField input, limit with
      | .error stop, _ => .error stop
      | .ok _, 0 => .error (.fault .tooManyFields)
      | .ok (field, rest'), limit + 1 => readFields limit (field :: read) rest'

namespace Head

/-- Read a head of at most `limit` fields and the bytes behind it. The target is handed to `isText`,
and refused where it is none. -/
def parse (limit : Nat) (isText : Bytes → Bool) (input : Bytes) : Except Stop (Head × Bytes) := do
  let input ← skipEmptyLines input
  let (method, input) ← readWord isTokenByte input
  let (target, input) ← readWord isTargetByte input
  if !isText target then .error (.fault .token)
  let (version, input) ← readVersion input
  let input ← readNewLine .newLine input
  let (fields, input) ← readFields limit [] input
  return (⟨method, target, version, fields⟩, input)

/-- Read a head of at most `limit` fields and the bytes behind it. `none` as long as it is
incomplete. -/
def read? (limit : Nat) (isText : Bytes → Bool) (input : Bytes) :
    Except HeadFault (Option (Head × Bytes)) :=
  match parse limit isText input with
  | .ok r => .ok (some r)
  | .error .incomplete => .ok none
  | .error (.fault what) => .error what

/-- The values of all fields with the given name, in order. The case of letters in names does not
matter. -/
def values (h : Head) (name : String) : List Bytes :=
  (h.fields.filter fun f => Bytes.sameLetters f.name (Bytes.ofAscii name)).map Field.value

/-- The value of the first field with the given name. -/
def value? (h : Head) (name : String) : Option Bytes := (h.values name).head?

end Head

end SpeedTest.Http
