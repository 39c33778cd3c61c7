/-!
Documents of TOML: values, tables and arrays of tables, and the rules by which headers and keys
add to them. Nothing is ever written twice, and a table that is complete is not extended.
-/

namespace SpeedTest.Toml

/-- How a table came into being. -/
inductive Origin where
  /-- By a header of its own, as an element of an array of tables, or as the whole document. -/
  | header
  /-- By the header of a table inside it. -/
  | implied
  /-- By a dotted key. -/
  | dotted
deriving Repr, DecidableEq

/-- What a key stands for. Numbers and points in time whose value is of no use here are known by
their kind only. -/
inductive Node where
  | string (text : String)
  | integer (n : Int)
  | float
  | boolean (b : Bool)
  | moment
  | array (items : List Node)
  /-- A table between braces. It is complete. -/
  | braces (fields : List (String × Node))
  | table (origin : Origin) (fields : List (String × Node))
  /-- An array of tables, last table first. -/
  | tables (elements : List (List (String × Node)))

/-- The keys of a table, in the order in which they were written. -/
abbrev Fields := List (String × Node)

namespace Fields

/-- Give a key that is there another meaning. -/
def replace (fs : Fields) (key : String) (n : Node) : Fields :=
  fs.map fun f => if f.1 = key then (key, n) else f

/-- Give a new key a meaning. -/
def insert? (fs : Fields) (key : String) (n : Node) : Option Fields :=
  if (fs.lookup key).isSome then none else some (fs ++ [(key, n)])

/-- Change the table at the end of a path, and create the tables on the way that are missing. A path
leads into the last table of an array, and never into a value. A path of dotted keys does not lead
into a table that has a header. `edit` is told how the table at the end came into being. -/
def within? (byDots : Bool) (origin : Origin) (edit : Origin → Fields → Option Fields) :
    List String → Fields → Option Fields
  | [], fs => edit origin fs
  | key :: path, fs =>
    match fs.lookup key with
    | none => do
      let o := if byDots then Origin.dotted else .implied
      let sub ← within? byDots o edit path []
      return fs ++ [(key, .table o sub)]
    | some (.table o sub) => do
      if byDots && o = .header then none
      let sub' ← within? byDots o edit path sub
      return replace fs key (.table o sub')
    | some (.tables (last :: earlier)) => do
      let last' ← within? byDots .header edit path last
      return replace fs key (.tables (last' :: earlier))
    | some _ => none

/-- Give the last of some dotted keys a meaning. A table that holds keys behind dots must have come
into being by dots. -/
def put? (path : List String) (key : String) (n : Node) (origin : Origin) (fs : Fields) :
    Option Fields :=
  within? true origin
    (fun o sub =>
      if (o = .dotted) = (path = []) then none else insert? sub key n)
    path fs

/-- Give keys under a header a meaning. -/
def putUnder? (header path : List String) (key : String) (n : Node) (document : Fields) :
    Option Fields :=
  within? false .header (fun o sub => put? path key n o sub) header document

/-- Begin a table. Only a table that other headers have implied may be there before. -/
def openTable? (path : List String) (key : String) (document : Fields) : Option Fields :=
  within? false .header
    (fun _ sub =>
      match sub.lookup key with
      | none => some (sub ++ [(key, .table .header [])])
      | some (.table .implied inner) => some (replace sub key (.table .header inner))
      | some _ => none)
    path document

/-- Begin an element of an array of tables. -/
def openElement? (path : List String) (key : String) (document : Fields) : Option Fields :=
  within? false .header
    (fun _ sub =>
      match sub.lookup key with
      | none => some (sub ++ [(key, .tables [[]])])
      | some (.tables elements) => some (replace sub key (.tables ([] :: elements)))
      | some _ => none)
    path document

end Fields

end SpeedTest.Toml
