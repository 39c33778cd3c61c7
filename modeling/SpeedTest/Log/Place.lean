import SpeedTest.IoError

/-!
Where a log file lies. The name of a log file is completed by a date, and its directories are made
as they are needed. A tilde and a slash stand for the home directory.
-/

namespace SpeedTest.Log

/-- A path as the file system reads it: from its root or the current directory, through names. -/
structure Path where
  isAbsolute : Bool
  names : List String
deriving Repr, DecidableEq

namespace Path

/-- Cut a text at its slashes. -/
def cut (cs : List Char) : List (List Char) :=
  cs.foldr
    (fun c pieces =>
      match c, pieces with
      | '/', pieces => [] :: pieces
      | c, piece :: pieces => (c :: piece) :: pieces
      | c, [] => [[c]])
    [[]]

/-- The path with the given text. Empty names and dots mean nothing, apart from a dot in front. -/
def ofText (s : String) : Path :=
  let pieces := (cut s.toList).map String.ofList
  ⟨s.toList.head? = some '/',
    (pieces.take 1).filter (· ≠ "") ++ (pieces.drop 1).filter fun n => n ≠ "" && n ≠ "."⟩

/-- The path to the directory around. -/
def parent (p : Path) : Path := { p with names := p.names.dropLast }

/-- The name at the end, if it is one: neither a dot nor two. -/
def fileName? (p : Path) : Option String :=
  p.names.getLast?.filter fun n => n ≠ ".." && n ≠ "."

/-- The directory that names lead to from the one at `here`, whose names stand last first. There is
none where they leave the top. -/
def follow? (here : List String) : List String → Option (List String)
  | [] => some here
  | n :: rest =>
    if n = "." then follow? here rest
    else if n = ".." then
      match here with
      | [] => none
      | _ :: above => follow? above rest
    else follow? (n :: here) rest

/-- The longest name in a directory. -/
def maxName : Nat := 255

/-- Why the directory at a path cannot be made, with those around it: because of the first name on
the path that stands for something else. -/
def obstruction? (isFile : Path → Bool) (p : Path) : Option SystemError :=
  (List.range p.names.length).findSome? fun i =>
    let here : Path := { p with names := p.names.take (i + 1) }
    if isFile here then some (if i + 1 = p.names.length then .fileExists else .notADirectory)
    else if here.names.getLast?.any (maxName < ·.utf8ByteSize) then some .nameTooLong
    else none

end Path

/-- The name of a log file for which none is given. -/
def defaultName : String := "ndt-legacy.log"

/-- A log file: its directory and its name without the date. -/
structure Place where
  directory : Path
  name : String
deriving Repr, DecidableEq

namespace Place

/-- The text behind a tilde and a slash, if the text begins so. -/
def behindTilde? (s : String) : Option String :=
  match s.toList with
  | '~' :: '/' :: rest => some (String.ofList rest)
  | _ => none

/-- The log file with the given path. A path without names stands for the current directory. -/
def ofPath (p : Path) : Place :=
  if p.names.isEmpty then ⟨⟨false, []⟩, defaultName⟩ else ⟨p.parent, p.fileName?.getD defaultName⟩

/-- The log file that a setting names, when the program runs in the given home directory. -/
def ofSetting (home : Path) (s : String) : Place :=
  match behindTilde? s with
  | none => ofPath (.ofText s)
  | some rest =>
    let p := Path.ofText rest
    ofPath (if p.isAbsolute then p else ⟨home.isAbsolute, home.names ++ p.names⟩)

end Place

end SpeedTest.Log
