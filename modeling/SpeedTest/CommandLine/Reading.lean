import SpeedTest.CommandLine.Setting

/-!
Reading the words of a command line, and after them the environment.

A value stands behind an equals sign, and then counts at once, or in the next word, and then counts
when the word behind it has turned out to be in order. A word at fault therefore hides a value at
fault in front of it, if that stands in a word of its own. Each setting is given at most once, and
the environment counts only for what the command line leaves open.
-/

namespace SpeedTest.CommandLine

/-- A page of help. -/
inductive HelpPage where
  | program
  | serve
  | help
deriving Repr, DecidableEq

/-- Why a command line is refused. -/
inductive Refusal where
  | noCommand
  | unknownCommand (word : String)
  | unexpectedArgument (word : String)
  | unexpectedValue (value option : String)
  | missingValue (s : Setting)
  | repeated (s : Setting)
  | invalidValue (s : Setting) (value : String) (fault : ValueFault)
deriving Repr, DecidableEq

/-- What a command line amounts to that does not serve. -/
inductive Halt where
  | help (page : HelpPage)
  | version
  | refused (why : Refusal)
  /-- The program breaks down over a value. -/
  | broken (s : Setting) (value : String)
deriving Repr, DecidableEq

/-- What has been read of a command line. -/
structure Reading where
  options : Options
  /-- The setting that was named last, and its value if that stood in a word of its own. It does not
  count yet. -/
  open? : Option (Setting × Option String)

/-- Give a value to a setting that was not given before. -/
def give (o : Options) (s : Setting) (value : String) : Except Halt Options :=
  match o.give value s with
  | .ok o' => .ok o'
  | .error .emptyPath => .error (.refused (.missingValue s))
  | .error .overflow => .error (.broken s value)
  | .error fault => .error (.refused (.invalidValue s value fault))

/-- Give a value to a setting on the command line. -/
def giveOnce (o : Options) (s : Setting) (value : String) : Except Halt Options :=
  if o.has s then .error (.refused (.repeated s)) else give o s value

/-- Let the setting count that was named last. -/
def Reading.settle (r : Reading) : Except Halt Options :=
  match r.open? with
  | none => .ok r.options
  | some (s, none) => .error (.refused (.missingValue s))
  | some (s, some value) => giveOnce r.options s value

/-- Halt behind the setting that was named last. -/
def Reading.halt {α : Type} (r : Reading) (h : Halt) : Except Halt α :=
  match r.settle with
  | .ok _ => .error h
  | .error h' => .error h'

/-- A word, by its form. -/
inductive Word where
  /-- Two dashes. -/
  | divider
  /-- Two dashes and a name, and perhaps a value behind an equals sign. -/
  | long (name : String) (value : Option String)
  /-- A dash and a letter. -/
  | short (letter : Char)
  | plain (text : String)
deriving Repr, DecidableEq

/-- The form of a word. -/
def Word.ofText (s : String) : Word :=
  match s.toList with
  | ['-', '-'] => .divider
  | '-' :: '-' :: cs =>
    let name := cs.takeWhile (· != '=')
    .long (String.ofList name)
      (if name.length < cs.length then some (String.ofList (cs.drop (name.length + 1))) else none)
  | '-' :: c :: _ => .short c
  | _ => .plain s

/-- Refuse a word. -/
def unexpected {α : Type} (word : String) : Except Halt α :=
  .error (.refused (.unexpectedArgument word))

/-- Refuse a value behind an option that takes none. -/
def unexpectedValue {α : Type} (value option : String) : Except Halt α :=
  .error (.refused (.unexpectedValue value option))

/-- Read a long option of the command `serve`. -/
def Reading.long (r : Reading) (name : String) (value : Option String) : Except Halt Reading :=
  match Setting.ofName? name, value with
  | some s, some v => do
    let o ← r.settle
    return ⟨← giveOnce o s v, none⟩
  | some s, none => r.settle.map fun o => ⟨o, some (s, none)⟩
  | none, v =>
    if name = "help" then
      match v with
      | some v => unexpectedValue v "--help"
      | none => r.halt (.help .serve)
    else unexpected ("--" ++ name)

/-- Read a word of the command `serve` in front of a divider. -/
def Reading.word (r : Reading) : Word → Except Halt Reading
  | .divider => .ok r
  | .long name value => r.long name value
  | .short c => if c = 'h' then r.halt (.help .serve) else unexpected (String.ofList ['-', c])
  | .plain text =>
    match r.open? with
    | some (s, none) => .ok { r with open? := some (s, some text) }
    | _ => unexpected text

/-- Read the words behind the command `serve`. Nothing may follow a divider. -/
def readWords (r : Reading) : List String → Except Halt Options
  | [] => r.settle
  | w :: rest =>
    match Word.ofText w, rest with
    | .divider, [] => r.settle
    | .divider, w' :: _ => unexpected w'
    | word, rest =>
      match r.word word with
      | .error h => .error h
      | .ok r' => readWords r' rest

/-- The values of variables. -/
abbrev Environment := String → Option String

/-- Give the values of the environment to settings that the command line leaves open. -/
def addEnvironment (env : Environment) (o : Options) : List Setting → Except Halt Options
  | [] => .ok o
  | s :: rest =>
    match if o.has s then none else s.environmentName?.bind env with
    | none => addEnvironment env o rest
    | some value =>
      match give o s value with
      | .error h => .error h
      | .ok o' => addEnvironment env o' rest

def serveCommand : String := "serve"

def helpCommand : String := "help"

/-- The page of help that words ask for. -/
def readHelp : List String → Halt
  | [] => .help .program
  | [w] =>
    if w = serveCommand then .help .serve
    else if w = helpCommand then .help .help
    else .refused (.unknownCommand w)
  | w :: w' :: _ =>
    .refused (.unknownCommand (if w = serveCommand || w = helpCommand then w' else w))

/-- Read a plain word in the place of a command. -/
def readCommand (env : Environment) (w : String) (rest : List String) : Except Halt Options :=
  if w = serveCommand then do
    let o ← readWords ⟨.empty, none⟩ rest
    addEnvironment env o Setting.all
  else if w = helpCommand then .error (readHelp rest)
  else .error (.refused (.unknownCommand w))

/-- Read the words behind a divider in the place of a command. -/
def readDivided : List String → Halt
  | [] => .refused .noCommand
  | w :: _ =>
    if w = serveCommand || w = helpCommand then .refused (.unexpectedArgument w)
    else .refused (.unknownCommand w)

/-- Read a long option in the place of a command. -/
def readLong (name : String) (value : Option String) : Halt :=
  if name = "help" ∨ name = "version" then
    match value with
    | some v => .refused (.unexpectedValue v ("--" ++ name))
    | none => if name = "help" then .help .program else .version
  else .refused (.unexpectedArgument ("--" ++ name))

/-- Read a short option in the place of a command. -/
def readShort (c : Char) : Halt :=
  if c = 'h' then .help .program
  else if c = 'V' then .version
  else .refused (.unexpectedArgument (String.ofList ['-', c]))

/-- Read a command line and the environment. -/
def read (env : Environment) : List String → Except Halt Options
  | [] => .error (.refused .noCommand)
  | w :: rest =>
    match Word.ofText w with
    | .divider => .error (readDivided rest)
    | .long name value => .error (readLong name value)
    | .short c => .error (readShort c)
    | .plain _ => readCommand env w rest

end SpeedTest.CommandLine
