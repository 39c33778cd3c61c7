import SpeedTest.Bytes

/-!
The target of a request, and the path that it names.

A target is a path with an optional query, a whole address with a scheme, a bare authority, or an
asterisk.
-/

namespace SpeedTest.Http

/-- Why a request target is refused. -/
inductive TargetFault where
  | invalidCharacter
  | invalidAuthority
  | invalidFormat
  | tooLong
  | schemeTooLong
  /-- Nothing stands where an authority must. -/
  | empty
deriving Repr, DecidableEq

def TargetFault.message : TargetFault → String
  | invalidCharacter => "invalid uri character"
  | invalidAuthority => "invalid authority"
  | invalidFormat => "invalid format"
  | tooLong => "uri too long"
  | schemeTooLong => "scheme too long"
  | empty => "empty string"

namespace Target

/-- The length of the longest target. -/
def maxLength : Nat := 65534

/-- The length of the longest scheme. -/
def maxSchemeLength : Nat := 64

/-- The most colons of a host and a port. -/
def maxColons : Nat := 8

def isLetterOrDigit (n : Nat) : Bool :=
  (0x30 ≤ n && n ≤ 0x39) || (0x41 ≤ n && n ≤ 0x5A) || (0x61 ≤ n && n ≤ 0x7A)

/-- The bytes of schemes: letters, digits, and four marks. -/
def isSchemeByte (b : UInt8) : Bool :=
  let n := b.toNat
  isLetterOrDigit n || n == 0x2B || n == 0x2D || n == 0x2E || n == 0x7E

/-- The bytes of addresses that need no percent sign. -/
def isUriByte (b : UInt8) : Bool :=
  let n := b.toNat
  isLetterOrDigit n || n == 0x21 || n == 0x23 || n == 0x24 || (0x26 ≤ n && n ≤ 0x2F) || n == 0x3A
    || n == 0x3B || n == 0x3D || n == 0x3F || n == 0x40 || n == 0x5B || n == 0x5D || n == 0x5F
    || n == 0x7E

/-- The bytes of paths, as clients send them. -/
def isPathByte (b : UInt8) : Bool :=
  let n := b.toNat
  n == 0x21 || n == 0x22 || (0x24 ≤ n && n ≤ 0x3B) || n == 0x3D || (0x40 ≤ n && n ≤ 0x5F)
    || (0x61 ≤ n && n ≤ 0x7E) || 0x7F ≤ n

/-- The bytes of queries, as clients send them. -/
def isQueryByte (b : UInt8) : Bool :=
  let n := b.toNat
  n == 0x21 || (0x24 ≤ n && n ≤ 0x3B) || n == 0x3D || (0x3F ≤ n && n ≤ 0x7E) || 0x7F ≤ n

/-- The path of a path with an optional query and fragment. An empty path stands for the root. -/
def pathOf (s : Bytes) : Except TargetFault Bytes :=
  let path := s.takeWhile isPathByte
  let named := if path.isEmpty then [0x2F] else path
  match s.drop path.length with
  | [] => .ok named
  | b :: rest =>
    if b = 0x23 then .ok named
    else if b = 0x3F then
      match rest.dropWhile isQueryByte with
      | [] => .ok named
      | c :: _ => if c = 0x23 then .ok named else .error .invalidCharacter
    else .error .invalidCharacter

/-- The length of a scheme, if the target has one other than by accident: a colon and two slashes
follow it, and they are not all there is. -/
def schemeLength? (s : Bytes) : Except TargetFault (Option Nat) :=
  let scheme := s.takeWhile isSchemeByte
  if 3 < s.length ∧ Bytes.startsWith [0x3A, 0x2F, 0x2F] (s.drop scheme.length) then
    if maxSchemeLength < scheme.length then .error .schemeTooLong
    else .ok (some scheme.length)
  else .ok none

/-- What has been seen of an authority. -/
structure Authority where
  /-- How many bytes were read. -/
  length : Nat
  colons : Nat
  opened : Bool
  closed : Bool
  /-- Whether there was a percent sign outside of user information and brackets. -/
  percent : Bool
  /-- Whether the last byte was an at sign. -/
  atEnd : Bool

/-- The length of the authority at the front of a text. It ends at the first slash, question mark or
number sign. -/
def authorityLength (seen : Authority) : Bytes → Except TargetFault Nat
  | b :: rest =>
    if b = 0x2F ∨ b = 0x3F ∨ b = 0x23 then finish seen
    else
      let seen' := { seen with length := seen.length + 1, atEnd := false }
      if b = 0x3A then
        if maxColons ≤ seen.colons then .error .invalidAuthority
        else authorityLength { seen' with colons := seen.colons + 1 } rest
      else if b = 0x5B then
        if seen.percent || seen.opened then .error .invalidAuthority
        else authorityLength { seen' with opened := true } rest
      else if b = 0x5D then
        if !seen.opened || seen.closed then .error .invalidAuthority
        else authorityLength { seen' with closed := true, colons := 0, percent := false } rest
      else if b = 0x40 then
        authorityLength { seen' with atEnd := true, colons := 0, percent := false } rest
      else if b = 0x25 then authorityLength { seen' with percent := true } rest
      else if isUriByte b then authorityLength seen' rest
      else .error .invalidCharacter
  | [] => finish seen
where
  /-- What must hold of a whole authority. -/
  finish (seen : Authority) : Except TargetFault Nat :=
    if seen.opened != seen.closed || 1 < seen.colons || seen.atEnd || seen.percent then
      .error .invalidAuthority
    else .ok seen.length

/-- The length of the authority of a whole address. -/
def authorityOf (s : Bytes) : Except TargetFault Nat :=
  authorityLength ⟨0, 0, false, false, false, false⟩ s

/-- The path that a target names. A bare authority names none. -/
def path (s : Bytes) : Except TargetFault Bytes :=
  if maxLength < s.length then .error .tooLong
  else
    match s with
    | 0x2F :: _ => pathOf s
    | [0x2A] => .ok s
    | [_] =>
      match authorityOf s with
      | .error fault => .error fault
      | .ok n => if n = 1 then .ok [] else .error .invalidCharacter
    | _ =>
      match schemeLength? s with
      | .error fault => .error fault
      | .ok none =>
        match authorityOf s with
        | .error fault => .error fault
        | .ok n => if n = s.length then .ok [] else .error .invalidFormat
      | .ok (some n) =>
        let behind := s.drop (n + 3)
        match authorityOf behind with
        | .error fault => .error fault
        | .ok 0 => .error (if behind.isEmpty then .empty else .invalidFormat)
        | .ok m => pathOf (behind.drop m)

end Target

end SpeedTest.Http
