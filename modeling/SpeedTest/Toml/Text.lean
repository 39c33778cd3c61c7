import SpeedTest.Text.Utf8

/-!
The lexical parts of TOML: blanks, comments, line ends, strings and keys. Each reader takes what it
wants off the front of a text, or fails.
-/

namespace SpeedTest.Toml

/-- What a reader yields: a value and the rest of the text. -/
abbrev Read (α : Type) := List Char → Option (α × List Char)

def isBlank (c : Char) : Bool := c == ' ' || c == '\t'

def skipBlanks (cs : List Char) : List Char := cs.dropWhile isBlank

/-- The characters that may stand in comments, and in strings if they mean nothing there: all but
the control characters, of which the tab is allowed. -/
def isPlain (c : Char) : Bool := c == '\t' || (0x20 ≤ c.toNat && c.toNat != 0x7F)

/-- Take a line feed, perhaps behind a carriage return, off the front. -/
def readNewLine? : List Char → Option (List Char)
  | '\n' :: rest => some rest
  | '\r' :: '\n' :: rest => some rest
  | _ => none

/-- Pass over a comment, if there is one. -/
def skipComment (cs : List Char) : List Char :=
  match cs with
  | '#' :: rest => rest.dropWhile isPlain
  | _ => cs

/-- Read to the end of the line, where only blanks and a comment may stand. -/
def readLineEnd? (cs : List Char) : Option (List Char) :=
  match skipComment (skipBlanks cs) with
  | [] => some []
  | rest => readNewLine? rest

/-- Pass over blanks, comments and line ends. A comment needs a line end behind it. -/
def skipLines (cs : List Char) : List Char :=
  let blankless := skipBlanks cs
  match readNewLine? (skipComment blankless) with
  | none => blankless
  | some rest => if rest.length < cs.length then skipLines rest else rest
termination_by cs.length

/-! Strings -/

/-- The value of a hexadecimal digit. -/
def hexDigit? (c : Char) : Option Nat :=
  if '0' ≤ c && c ≤ '9' then some (c.toNat - '0'.toNat)
  else if 'a' ≤ c && c ≤ 'f' then some (c.toNat - 'a'.toNat + 10)
  else if 'A' ≤ c && c ≤ 'F' then some (c.toNat - 'A'.toNat + 10)
  else none

/-- The character whose number is written by exactly `n` hexadecimal digits. -/
def readCodePoint? (n : Nat) (cs : List Char) : Option (Char × List Char) := do
  let digits := cs.take n
  if digits.length < n then none
  let values ← digits.mapM hexDigit?
  let code := values.foldl (fun v d => 16 * v + d) 0
  if code < 0xD800 ∨ (0xDFFF < code ∧ code < 0x110000) then
    return (Char.ofNat code, cs.drop n)
  else none

/-- The character that an escape stands for, behind its backslash. -/
def readEscape? : Read Char
  | 'b' :: rest => some (Char.ofNat 8, rest)
  | 't' :: rest => some ('\t', rest)
  | 'n' :: rest => some ('\n', rest)
  | 'f' :: rest => some (Char.ofNat 12, rest)
  | 'r' :: rest => some ('\r', rest)
  | '"' :: rest => some ('"', rest)
  | '\\' :: rest => some ('\\', rest)
  | 'u' :: rest => readCodePoint? 4 rest
  | 'U' :: rest => readCodePoint? 8 rest
  | _ => none

/-- The rest of a string between quotes. `got` holds what has been read, last first. -/
def readBasic? (got cs : List Char) : Option (String × List Char) :=
  match cs with
  | '"' :: rest => some (String.ofList got.reverse, rest)
  | '\\' :: rest =>
    match readEscape? rest with
    | none => none
    | some (c, rest') =>
      if rest'.length < rest.length then readBasic? (c :: got) rest' else none
  | c :: rest => if isPlain c then readBasic? (c :: got) rest else none
  | [] => none
termination_by cs.length
decreasing_by all_goals simp_all <;> omega

/-- The rest of a string between apostrophes. -/
def readLiteral? (got : List Char) : Read String
  | '\'' :: rest => some (String.ofList got.reverse, rest)
  | c :: rest => if isPlain c then readLiteral? (c :: got) rest else none
  | [] => none

/-- A run of marks in a string of several lines: three of them end the string, and up to two more in
front of these belong to it. The number of those that belong to the string, and whether it ends. -/
def closing? (run : Nat) : Option (Nat × Bool) :=
  if run < 3 then some (run, false)
  else if run < 6 then some (run - 3, true)
  else none

/-- Pass over blanks and line ends. -/
def skipEmptyLines : List Char → List Char
  | '\n' :: rest => skipEmptyLines rest
  | '\r' :: '\n' :: rest => skipEmptyLines rest
  | ' ' :: rest => skipEmptyLines rest
  | '\t' :: rest => skipEmptyLines rest
  | cs => cs

/-- Behind a backslash, a line end with the blanks around it and all empty lines below. -/
def skipFold? (cs : List Char) : Option (List Char) :=
  (readNewLine? (skipBlanks cs)).map skipEmptyLines

/-- A line end, or a character that is not a mark. -/
def readPlain? (cs : List Char) : Option (Char × List Char) :=
  match readNewLine? cs with
  | some rest => some ('\n', rest)
  | none =>
    match cs with
    | c :: rest => if isPlain c then some (c, rest) else none
    | [] => none

/-- The rest of a string of several lines between triple marks. In one between quotes, a backslash
begins an escape or passes over a line end. -/
def readLong? (mark : Char) (got cs : List Char) : Option (String × List Char) :=
  match cs with
  | [] => none
  | c :: rest =>
    if c = mark then
      let run := ((c :: rest).takeWhile (· == mark)).length
      match closing? run with
      | none => none
      | some (kept, ends) =>
        let got' := List.replicate kept mark ++ got
        let rest' := rest.drop (run - 1)
        if ends then some (String.ofList got'.reverse, rest')
        else readLong? mark got' rest'
    else if c = '\\' ∧ mark = '"' then
      match skipFold? rest with
      | some rest' => if rest'.length ≤ rest.length then readLong? mark got rest' else none
      | none =>
        match readEscape? rest with
        | none => none
        | some (e, rest') =>
          if rest'.length ≤ rest.length then readLong? mark (e :: got) rest' else none
    else
      match readPlain? (c :: rest) with
      | none => none
      | some (p, rest') =>
        if rest'.length ≤ rest.length then readLong? mark (p :: got) rest' else none
termination_by cs.length
decreasing_by
  all_goals simp only [List.length_cons, List.length_drop]; omega

/-- A line end right behind the opening marks does not belong to the string. -/
def skipFirstLineEnd (cs : List Char) : List Char := (readNewLine? cs).getD cs

/-- A string of any kind. -/
def readString? : Read String
  | '"' :: '"' :: '"' :: rest => readLong? '"' [] (skipFirstLineEnd rest)
  | '\'' :: '\'' :: '\'' :: rest => readLong? '\'' [] (skipFirstLineEnd rest)
  | '"' :: rest => readBasic? [] rest
  | '\'' :: rest => readLiteral? [] rest
  | _ => none

/-! Keys -/

/-- The characters of keys without quotes. -/
def isKeyChar (c : Char) : Bool := c.isAlphanum || c == '-' || c == '_'

/-- One key. -/
def readKey? (cs : List Char) : Option (String × List Char) :=
  match cs with
  | '"' :: rest => readBasic? [] rest
  | '\'' :: rest => readLiteral? [] rest
  | _ =>
    let word := cs.takeWhile isKeyChar
    if word.isEmpty then none else some (String.ofList word, cs.dropWhile isKeyChar)

/-- The most keys that dots may join. -/
def maxKeys : Nat := 79

/-- At most `limit` keys that dots join, with blanks around each. -/
def readKeys? (limit : Nat) (cs : List Char) : Option (List String × List Char) :=
  match limit with
  | 0 => none
  | n + 1 => do
    let (key, rest) ← readKey? (skipBlanks cs)
    match skipBlanks rest with
    | '.' :: rest' =>
      let (keys, rest'') ← readKeys? n rest'
      return (key :: keys, rest'')
    | rest' => return ([key], rest')

/-- A list without its last element, and that element. -/
def splitLast? {α : Type} (l : List α) : Option (List α × α) :=
  l.getLast?.map fun last => (l.dropLast, last)

/-- Dotted keys: the last of them, and those in front of it. -/
def readPath? (cs : List Char) : Option ((List String × String) × List Char) := do
  let (keys, rest) ← readKeys? maxKeys cs
  let split ← splitLast? keys
  return (split, rest)

end SpeedTest.Toml
