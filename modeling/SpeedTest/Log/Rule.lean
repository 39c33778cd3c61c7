import SpeedTest.Log.Threshold
import SpeedTest.Error
import SpeedTest.Text.Blank

/-!
Rules about which entries of a log are kept. A rule is written as the beginning of the names of the
sources it is about, a span between brackets, the fields of entries between braces inside these
brackets, an equality sign, and a threshold. Everything but one of these may be left out, and
without a threshold everything is kept.

A comma may end a rule. Blanks around a rule are passed over when its parts are told apart, but the
parts are then cut out of the text as it stands, so that blanks in front shift them.
-/

namespace SpeedTest.Log

/-- What a rule says about a field of an entry. -/
structure FieldMatch where
  name : String
  value : Option String
deriving Repr, DecidableEq

/-- A rule about the entries of some sources. -/
structure Rule where
  /-- How the names of the sources begin. Without it the rule is about all. -/
  source : Option String
  /-- The span that an entry must lie in. -/
  span : Option String
  fields : List FieldMatch
  threshold : Threshold
deriving Repr, DecidableEq

namespace Rule

/-- Why a text is no rule. -/
inductive Fault where
  /-- Its threshold names no level. -/
  | level
  /-- Its parts are not in order. -/
  | form
deriving Repr, DecidableEq

def Fault.message : Fault → String
  | level =>
    "error parsing level filter: expected one of \"off\", \"error\", \"warn\", \"info\", "
      ++ "\"debug\", \"trace\", or a number 0-5"
  | form => "invalid filter directive"

/-- A failure to read a level has itself for its cause. -/
def Fault.failure : Fault → Failure
  | level => ⟨[Fault.level.message, Fault.level.message]⟩
  | form => .ofMessage Fault.form.message

/-- A rule that is about everything and keeps it. -/
def everything : Rule := ⟨none, none, [], .atLeast .trace⟩

/-- The rule with a threshold that may be left out. -/
def withLevel (word : List Char) (r : Rule) : Except Fault Rule :=
  if word.isEmpty then .ok { r with threshold := .atLeast .trace }
  else
    match Threshold.ofWord? word with
    | some t => .ok { r with threshold := t }
    | none => .error .level

/-- The rule that a single word stands for, a threshold or else a source. -/
def ofWord (word : List Char) : Rule :=
  match Threshold.ofWord? word with
  | some t => { everything with threshold := t }
  | none => { everything with source := some (String.ofList word) }

/-- The rule with one more field, whose value stands between the first equality sign and the
second. -/
def withField (word : List Char) (r : Rule) : Except Fault Rule :=
  if word.isEmpty then .error .form
  else
    let name := word.takeWhile (· != '=')
    let value :=
      if name.length = word.length then none
      else some (String.ofList ((word.drop (name.length + 1)).takeWhile (· != '=')))
    .ok { r with fields := r.fields ++ [⟨String.ofList name, value⟩] }

/-- How far a rule has been read, with the characters of the part at hand, last first. -/
inductive Stage where
  | start
  | word (seen : List Char)
  | span (seen : List Char)
  | field (seen : List Char)
  | behindFields
  | behindSpan
  | level (seen : List Char)
  | complete
deriving Repr, DecidableEq

/-- A character that can begin a rule. All beyond ASCII are taken for letters. -/
def isFirst (c : Char) : Bool :=
  c.isAlphanum || c == '-' || c == ':' || c == '_' || 0x80 ≤ c.toNat

/-- Read a character, which decides where the part at hand ends. What belongs to the part is another
one. -/
def step : Stage × Rule → Char × Char → Except Fault (Stage × Rule)
  | (.start, r), (c, own) =>
    if c = '[' then .ok (.span [], r)
    else if isFirst c then .ok (.word [own], r)
    else .error .form
  | (.word seen, r), (c, own) =>
    if c = '=' then .ok (.level [], { r with source := some (String.ofList seen.reverse) })
    else if c = '[' then .ok (.span [], { r with source := some (String.ofList seen.reverse) })
    else if c = ',' then .ok (.complete, ofWord seen.reverse)
    else .ok (.word (own :: seen), r)
  | (.span seen, r), (c, own) =>
    let name := String.ofList seen.reverse
    if c = ']' then .ok (.behindSpan, { r with span := some name })
    else if c = '\x7b' then
      .ok (.field [], { r with span := if seen.isEmpty then none else some name })
    else .ok (.span (own :: seen), r)
  | (.field seen, r), (c, own) =>
    if c = '\x7d' then (withField seen.reverse r).map fun r => (.behindFields, r)
    else if c = ',' then (withField seen.reverse r).map fun r => (.field [], r)
    else .ok (.field (own :: seen), r)
  | (.behindFields, r), (c, _) => if c = ']' then .ok (.behindSpan, r) else .error .form
  | (.behindSpan, r), (c, _) => if c = '=' then .ok (.level [], r) else .error .form
  | (.level seen, r), (c, own) =>
    if c = ',' then (withLevel seen.reverse r).map fun r => (.complete, r)
    else .ok (.level (own :: seen), r)
  | (.complete, _), _ => .error .form

/-- What has been read, when the given characters of the text are left over. -/
def finish (rest : List Char) : Stage × Rule → Except Fault Rule
  | (.word seen, _) => .ok (ofWord (seen.reverse ++ rest))
  | (.level seen, r) => withLevel (seen.reverse ++ rest) r
  | (.behindSpan, r) | (.complete, r) => .ok r
  | _ => .error .form

/-- The rule with the given text. -/
def read (s : String) : Except Fault Rule := do
  let cs := s.toList
  let deciding := Text.trimChars cs
  finish (cs.drop deciding.length) (← (deciding.zip cs).foldlM step (.start, everything))

/-- The field that the text of every entry is. -/
def textField : String := "message"

/-- Whether a rule can decide about an entry. None of the program's entries lies in a span. -/
def isAbout (r : Rule) (e : Entry) : Bool :=
  r.span.isNone
    && (r.source.map String.toList).all (fun start => start.isPrefixOf e.source.name.toList)
    && r.fields.all fun f => f.name == textField && f.value.isNone

/-- The length of what a rule says about sources, above zero if it says anything. -/
def reach (r : Rule) : Nat := (r.source.map fun s => s.utf8ByteSize + 1).getD 0

/-- Of two rules, the one that says more about sources, or else about more fields, decides. -/
def outranks (r r' : Rule) : Bool :=
  r'.reach < r.reach || (r.reach == r'.reach && r'.fields.length < r.fields.length)

end Rule

end SpeedTest.Log
