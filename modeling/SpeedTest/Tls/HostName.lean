import SpeedTest.Net.Address
import SpeedTest.Text.Utf8

/-!
The names of hosts in greetings: labels of letters, digits, hyphens and low lines, with dots between
them and perhaps one behind the last. A label neither begins nor ends with a hyphen, and the last
one does not consist of digits alone.
-/

namespace SpeedTest.Tls.HostName

/-- The longest label. -/
def maxLabel : Nat := 63

/-- The longest name. -/
def maxLength : Nat := 253

def isHyphen (c : Char) : Bool := c == '-'

def isLabelChar (c : Char) : Bool := c.isAlphanum || c == '-' || c == '_'

def isLabel (l : List Char) : Bool :=
  !l.isEmpty && l.length ≤ maxLabel && l.all isLabelChar
    && !l.head?.any isHyphen && !l.getLast?.any isHyphen

/-- Whether a text is a name of a host. -/
def isName (cs : List Char) : Bool :=
  let labels := IpAddress.splitDots cs
  let labels := if labels.getLast? = some [] then labels.dropLast else labels
  cs.length ≤ maxLength && !labels.isEmpty && labels.all isLabel
    && !labels.getLast?.any fun l => l.all Char.isDigit

/-- Whether a text is an address. -/
def isAddress (cs : List Char) : Bool :=
  (IpAddress.readV4? cs).any (fun (_, rest) => rest.isEmpty)
    || (IpAddress.readV6? cs).any fun (_, rest) => rest.isEmpty

/-- Whether bytes name a host or are its address. -/
def isHost (bs : Bytes) : Bool := (Utf8.decodeChars? bs).any fun cs => isName cs || isAddress cs

end SpeedTest.Tls.HostName
