import SpeedTest.Number.Reader

/-!
The names that can be asked for in a lookup of a host: labels with dots between them and perhaps one
behind the last. A backslash stands in front of a character that is meant as it is, or of the three
digits of its code.
-/

namespace SpeedTest.DomainName

/-- The longest label. -/
def maxLabel : Nat := 63

/-- The most bytes that the labels of a name take, each with its length in front. -/
def maxWireLength : Nat := 254

/-- The largest code behind a backslash. -/
def maxCode : Nat := 255

/-- Put a character at the front of the first label. -/
def pushChar (c : Char) : List (List Char) → List (List Char)
  | label :: labels => (c :: label) :: labels
  | [] => [[c]]

/-- The text between the dots, with each backslash and what it stands for resolved. -/
def labels? : List Char → Option (List (List Char))
  | [] => some [[]]
  | ['\\'] => none
  | '\\' :: a :: rest =>
    if !isDigitChar a then (labels? rest).map (pushChar a)
    else
      match rest with
      | b :: c :: rest =>
        let code := valueOfDigits [a, b, c]
        if isDigitChar b && isDigitChar c && code ≤ maxCode then
          (labels? rest).map (pushChar (Char.ofNat code))
        else none
      | _ => none
  | '.' :: rest => (labels? rest).map ([] :: ·)
  | c :: rest => (labels? rest).map (pushChar c)

def isLabelChar (c : Char) : Bool := c.isAlphanum || c == '-' || c == '_'

def isLabel (l : List Char) : Bool := !l.isEmpty && l.length ≤ maxLabel && l.all isLabelChar

/-- The bytes that labels take, each with its length in front. -/
def wireLength (ls : List (List Char)) : Nat := ls.foldl (fun n l => n + l.length + 1) 0

/-- Whether labels make a name of a host. Only a hyphen at the very front is refused. -/
def isHost (ls : List (List Char)) : Bool :=
  ls.all isLabel && wireLength ls ≤ maxWireLength && (ls.head?.bind List.head?).any (· != '-')

/-- Whether a text can be asked for as the name of a host. A single dot is the name of the root. -/
def isAskable (cs : List Char) : Bool :=
  cs == ['.'] || (labels? cs).any fun ls =>
    isHost (if ls.getLast? = some [] then ls.dropLast else ls)

end SpeedTest.DomainName
