import SpeedTest.Toml.Scalar

/-!
Reading TOML documents. A document is a list of lines that are blank, begin a table, or give a key a
meaning. Values nest to a limited depth.
-/

namespace SpeedTest.Toml

/-- How deep arrays and tables in braces may be nested. -/
def maxDepth : Nat := 79

/-- The rest of an array. `got` holds its items so far, last first. -/
def readItems? (value : Read Node) (got : List Node) (cs : List Char) :
    Option (Node × List Char) :=
  let cs' := skipLines cs
  if cs'.head? = some ']' then some (.array got.reverse, cs'.drop 1)
  else
    match value cs' with
    | none => none
    | some (n, behind) =>
      match skipLines behind with
      | ']' :: rest => some (.array (n :: got).reverse, rest)
      | ',' :: rest =>
        if rest.length < cs.length then readItems? value (n :: got) rest else none
      | _ => none
termination_by cs.length

/-- A key, a meaning for it, and the blanks around. -/
def readPair? (value : Read Node) (cs : List Char) :
    Option ((List String × String) × Node × List Char) := do
  let (path, rest) ← readPath? cs
  match rest with
  | '=' :: rest' =>
    let (n, behind) ← value (skipBlanks rest')
    return (path, n, behind)
  | _ => none

/-- The rest of a table in braces, in front of a key. -/
def readFields? (value : Read Node) (fs : Fields) (cs : List Char) :
    Option (Node × List Char) :=
  match readPair? value cs with
  | none => none
  | some ((path, key), n, behind) =>
    match fs.put? path key n .header with
    | none => none
    | some fs' =>
      match skipBlanks behind with
      | '}' :: rest => some (.braces fs', rest)
      | ',' :: rest => if rest.length < cs.length then readFields? value fs' rest else none
      | _ => none
termination_by cs.length

/-- The rest of a table in braces, which may be empty. -/
def readBraces? (value : Read Node) : Read Node := fun cs =>
  match skipBlanks cs with
  | '}' :: rest => some (.braces [], rest)
  | _ => readFields? value [] cs

/-- A value in which `depth` more arrays and braces may be nested. -/
def readValue? (depth : Nat) : Read Node := fun cs =>
  match cs, depth with
  | '[' :: rest, d + 1 => readItems? (readValue? d) [] rest
  | '{' :: rest, d + 1 => readBraces? (readValue? d) rest
  | '"' :: _, _ => (readString? cs).map fun (s, rest) => (.string s, rest)
  | '\'' :: _, _ => (readString? cs).map fun (s, rest) => (.string s, rest)
  | _, _ => readScalar? cs

/-- The document so far, and the path of the table that keys go to. -/
structure Draft where
  document : Fields
  header : List String

/-- An empty document. -/
def Draft.empty : Draft := ⟨[], []⟩

/-- Read the line of a header, behind its first bracket. -/
def Draft.readHeader? (d : Draft) (cs : List Char) : Option (Draft × List Char) :=
  match cs with
  | '[' :: rest => do
    let ((path, key), behind) ← readPath? rest
    let document ← d.document.openElement? path key
    let behind ← readMark? ']' (← readMark? ']' behind)
    return (⟨document, path ++ [key]⟩, ← readLineEnd? behind)
  | _ => do
    let ((path, key), behind) ← readPath? cs
    let document ← d.document.openTable? path key
    let behind ← readMark? ']' behind
    return (⟨document, path ++ [key]⟩, ← readLineEnd? behind)

/-- Read the line of a key. -/
def Draft.readLine? (d : Draft) (cs : List Char) : Option (Draft × List Char) := do
  let ((path, key), n, behind) ← readPair? (readValue? maxDepth) cs
  let document ← d.document.putUnder? d.header path key n
  return (⟨document, d.header⟩, ← readLineEnd? behind)

/-- Read the next line, behind its first blanks. -/
def Draft.read? (d : Draft) (cs : List Char) : Option (Draft × List Char) :=
  match cs with
  | '[' :: rest => d.readHeader? rest
  | c :: _ =>
    if c = '#' ∨ c = '\n' ∨ c = '\r' then (readLineEnd? cs).map fun rest => (d, rest)
    else d.readLine? cs
  | [] => some (d, [])

/-- Read the lines that are left. -/
def Draft.readLines? (d : Draft) (cs : List Char) : Option Fields :=
  let cs' := skipBlanks cs
  if cs'.isEmpty then some d.document
  else
    match d.read? cs' with
    | none => none
    | some (d', rest) => if rest.length < cs.length then d'.readLines? rest else none
termination_by cs.length

/-- The mark that may stand in front of a text. -/
def byteOrderMark : Char := Char.ofNat 0xFEFF

/-- Read a document. -/
def read? (cs : List Char) : Option Fields :=
  Draft.empty.readLines? (if cs.head? = some byteOrderMark then cs.drop 1 else cs)

end SpeedTest.Toml
