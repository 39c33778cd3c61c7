/-!
Control characters and control sequences, and texts without them.

What is written to something else than a terminal says in plain characters what a terminal would
have shown. Blanks that a control sequence encloses stay, as a terminal would have obeyed them.
-/

namespace SpeedTest.Text

/-- Where a terminal stands in a text. -/
inductive ControlState where
  /-- Behind plain text. -/
  | ground
  /-- Behind an escape character, and perhaps intermediate characters. -/
  | escape (inside : Bool)
  /-- In a control sequence, which ends at its first letter. -/
  | sequence
  /-- In a command to the operating system, which ends at a bell. -/
  | command
  /-- In a string that only the next escape ends. -/
  | string
deriving Repr, DecidableEq

/-- The control characters below the blank. -/
def isControl (c : Char) : Bool := c.toNat < 0x20

/-- The control characters that stay in a text. -/
def isLayout (c : Char) : Bool := c = '\t' || c = '\n' || c = '\x0c' || c = '\r'

/-- The characters that end an escape or a control sequence. -/
def isFinal (first : Nat) (c : Char) : Bool := first ≤ c.toNat && c.toNat ≤ 0x7E

namespace ControlState

/-- Where the first character behind an escape leads. -/
def ofIntroducer (c : Char) : ControlState :=
  if c = '[' then sequence
  else if c = ']' then command
  else if c = 'P' || c = 'X' || c = '^' || c = '_' then string
  else if isFinal 0x30 c then ground
  else escape (0x20 ≤ c.toNat && c.toNat ≤ 0x2F)

/-- Where a character leads. The escape character starts anew everywhere, and two others give up. -/
def next (s : ControlState) (c : Char) : ControlState :=
  if c = '\x1b' then escape false
  else if c = '\x18' || c = '\x1a' then ground
  else match s with
    | ground => ground
    | escape false => if isControl c then s else ofIntroducer c
    | escape true => if isFinal 0x30 c then ground else s
    | sequence => if isFinal 0x40 c then ground else s
    | command => if c = '\x07' then ground else s
    | string => s

/-- Whether a terminal would show a character, or lay out its text by it. -/
def shows (s : ControlState) (c : Char) : Bool :=
  match s with
  | ground => isLayout c || !(isControl c || c = '\x7f')
  | escape _ | sequence => isLayout c
  | command | string => false

end ControlState

/-- The characters of a text that a terminal would show. -/
def dropControls (s : ControlState) : List Char → List Char
  | [] => []
  | c :: rest => (if s.shows c then [c] else []) ++ dropControls (s.next c) rest

/-- A text without control characters and control sequences. -/
def plain (s : String) : String := String.ofList (dropControls .ground s.toList)

end SpeedTest.Text
