import SpeedTest.Number.Reader
import SpeedTest.Net.DomainName
import SpeedTest.IoError

/-!
Addresses of sockets: an IP address and a port, their text, and how the text of a listen or dial
address is read.

An IPv6 address is written with its longest run of zero groups left out, the first of several such
runs, as long as it has more than one group.
-/

namespace SpeedTest

/-- An IP address. -/
inductive IpAddress where
  /-- Four numbers below 256. -/
  | v4 (parts : List Nat)
  /-- Eight numbers below 65536, and the zone in which a link-local address holds. -/
  | v6 (groups : List Nat) (zone : Nat)
deriving Repr, DecidableEq

/-- An IP address and a port. -/
structure SocketAddress where
  ip : IpAddress
  port : Nat
deriving Repr, DecidableEq

namespace IpAddress

/-- All IPv4 interfaces. -/
def anyV4 : IpAddress := .v4 [0, 0, 0, 0]

/-- The IPv4 address of the machine itself. -/
def loopbackV4 : IpAddress := .v4 [127, 0, 0, 1]

/-- The text of an IPv4 address. -/
def renderV4 (parts : List Nat) : String := ".".intercalate (parts.map toString)

/-- A group in hexadecimal digits. -/
def renderGroup (n : Nat) : String := String.ofList (Nat.toDigits 16 n)

def renderGroups (gs : List Nat) : String := ":".intercalate (gs.map renderGroup)

/-- The number of zeros at the front. -/
def leadingZeros (gs : List Nat) : Nat := (gs.takeWhile (· == 0)).length

/-- Where the first of the longest runs of zeros begins, and its length. -/
def longestRun (gs : List Nat) : Nat × Nat :=
  (List.range gs.length).foldl
    (fun best i =>
      let n := leadingZeros (gs.drop i)
      if best.2 < n then (i, n) else best)
    (0, 0)

/-- The text of an IPv6 address. One that stands for an IPv4 address ends in its text. -/
def renderV6 (gs : List Nat) : String :=
  match gs with
  | [0, 0, 0, 0, 0, 0xFFFF, hi, lo] =>
    "::ffff:" ++ renderV4 [hi / 256, hi % 256, lo / 256, lo % 256]
  | _ =>
    let (start, n) := longestRun gs
    if n ≤ 1 then renderGroups gs
    else renderGroups (gs.take start) ++ "::" ++ renderGroups (gs.drop (start + n))

/-! A reader takes what it wants off the front of a text, or fails without taking anything. -/

/-- A decimal number without superfluous zeros, below 256. -/
def readPart? (cs : List Char) : Option (Nat × List Char) :=
  let ds := cs.takeWhile isDigitChar
  if ds.isEmpty || 3 < ds.length then none
  else if 1 < ds.length && ds.head? == some '0' then none
  else
    let n := valueOfDigits ds
    if 255 < n then none else some (n, cs.drop ds.length)

/-- Take the given character off the front. -/
def readMark? (mark : Char) : List Char → Option (List Char)
  | c :: rest => if c = mark then some rest else none
  | [] => none

/-- Four numbers with dots between them. -/
def readV4? (cs : List Char) : Option (List Nat × List Char) := do
  let (a, cs) ← readPart? cs
  let (b, cs) ← readPart? (← readMark? '.' cs)
  let (c, cs) ← readPart? (← readMark? '.' cs)
  let (d, cs) ← readPart? (← readMark? '.' cs)
  return ([a, b, c, d], cs)

/-- The value of a hexadecimal digit. -/
def hexValue? (c : Char) : Option Nat :=
  if '0' ≤ c ∧ c ≤ '9' then some (c.toNat - '0'.toNat)
  else if 'a' ≤ c ∧ c ≤ 'f' then some (c.toNat - 'a'.toNat + 10)
  else if 'A' ≤ c ∧ c ≤ 'F' then some (c.toNat - 'A'.toNat + 10)
  else none

/-- Up to four hexadecimal digits. -/
def readGroup? (cs : List Char) : Option (Nat × List Char) :=
  let ds := cs.takeWhile fun c => (hexValue? c).isSome
  if ds.isEmpty || 4 < ds.length then none
  else some (ds.foldl (fun n c => 16 * n + (hexValue? c).getD 0) 0, cs.drop ds.length)

/-- The colon in front of every group but the first. -/
def readSeparator? (isFirst : Bool) (cs : List Char) : Option (List Char) :=
  if isFirst then some cs else readMark? ':' cs

/-- Up to `limit` groups with colons between them, the last two perhaps as an IPv4 address. Tells
whether they were. -/
def readGroups (limit : Nat) (isFirst : Bool) (cs : List Char) : List Nat × Bool × List Char :=
  match limit with
  | 0 => ([], false, cs)
  | limit + 1 =>
    let tail? := if limit = 0 then none else (readSeparator? isFirst cs).bind readV4?
    match tail? with
    | some ([a, b, c, d], rest) => ([256 * a + b, 256 * c + d], true, rest)
    | _ =>
      match (readSeparator? isFirst cs).bind readGroup? with
      | none => ([], false, cs)
      | some (g, rest) =>
        let (gs, mapped, rest') := readGroups limit false rest
        (g :: gs, mapped, rest')

/-- Eight groups, of which one run of zeros may be left out. -/
def readV6? (cs : List Char) : Option (List Nat × List Char) :=
  let (front, mapped, rest) := readGroups 8 true cs
  if front.length = 8 then some (front, rest)
  else if mapped then none
  else
    match rest with
    | ':' :: ':' :: rest =>
      let (back, _, rest) := readGroups (7 - front.length) true rest
      some (front ++ List.replicate (8 - front.length - back.length) 0 ++ back, rest)
    | _ => none

/-- A zone behind a percent sign, if there is one. -/
def readZone? (cs : List Char) : Option (Nat × List Char) :=
  match cs with
  | '%' :: rest =>
    let ds := rest.takeWhile isDigitChar
    let n := valueOfDigits ds
    if ds.isEmpty || 1 <<< 32 ≤ n then none else some (n, rest.drop ds.length)
  | _ => some (0, cs)

/-- A number of a numeric host name: octal with a leading zero, hexadecimal behind `0x`, and
decimal otherwise. The text `0x` alone is no number. -/
def readNumeral? (cs : List Char) : Option Nat :=
  let inBase (base : Nat) (ds : List Char) : Option Nat :=
    if ds.isEmpty then none
    else
      ds.foldl
        (fun n? c =>
          match n?, hexValue? c with
          | some n, some d => if d < base then some (base * n + d) else none
          | _, _ => none)
        (some 0)
  match cs with
  | '0' :: x :: ds => if x = 'x' ∨ x = 'X' then inBase 16 ds else inBase 8 (x :: ds)
  | ds => inBase 10 ds

/-- The number at each place of a numeric host name. Every one but the last is a byte, and the last
fills what is left of four bytes. -/
def ofNumerals? (ns : List Nat) : Option IpAddress :=
  match ns.reverse with
  | [] => none
  | last :: front =>
    if 3 < front.length || front.any (255 < ·) || 1 <<< (8 * (4 - front.length)) ≤ last then none
    else
      let places := 4 - front.length
      let spread := (List.range places).map fun i => last >>> (8 * (places - 1 - i)) % 256
      some (.v4 (front.reverse ++ spread))

/-- The pieces of a text between the dots. -/
def splitDots (cs : List Char) : List (List Char) :=
  cs.foldr
    (fun c pieces =>
      match c, pieces with
      | '.', pieces => [] :: pieces
      | c, piece :: pieces => (c :: piece) :: pieces
      | c, [] => [[c]])
    [[]]

/-- An address that holds on one link or one machine only. -/
def isLocal (gs : List Nat) : Bool :=
  match gs with
  | g :: _ => g / 64 = 0xFE80 / 64 || (g / 256 = 0xFF && (g % 16 = 1 || g % 16 = 2))
  | [] => false

/-- The zone with the given text, a number or the name of a network interface. Only a local address
has a zone with a name. -/
def zone? (gs : List Nat) (cs : List Char) : Option Nat :=
  if isLocal gs && cs == ['l', 'o'] then some 1
  else
    let n := valueOfDigits cs
    if cs.isEmpty || !cs.all isDigitChar || 1 <<< 32 ≤ n then none else some n

/-- The address of a host. There is no one to ask about a host name, so only the text of an address
has one. -/
def ofHost (cs : List Char) : Except IoError IpAddress :=
  if cs.contains '\x00' then .error .nulInName
  else
    match ((splitDots cs).mapM readNumeral?).bind ofNumerals? with
    | some ip => .ok ip
    | none =>
      let (address, rest) := (cs.takeWhile (· != '%'), cs.dropWhile (· != '%'))
      match readV6? address, rest with
      | some (gs, []), [] => .ok (.v6 gs 0)
      | some (gs, []), _ :: zone =>
        match zone? gs zone with
        | some n => .ok (.v6 gs n)
        | none => .error .unknownHost
      | _, _ => .error (if DomainName.isAskable cs then .hostOutOfReach else .unknownHost)

end IpAddress

namespace SocketAddress

def render (a : SocketAddress) : String :=
  match a.ip with
  | .v4 parts => IpAddress.renderV4 parts ++ ":" ++ toString a.port
  | .v6 gs zone =>
    "[" ++ IpAddress.renderV6 gs ++ (if zone = 0 then "" else "%" ++ toString zone) ++ "]:"
      ++ toString a.port

/-- The largest port. -/
def maxPort : Nat := 65535

/-- A port that ends the text. -/
def readPort? (cs : List Char) : Option Nat :=
  if cs.isEmpty || !cs.all isDigitChar then none
  else
    let n := valueOfDigits cs
    if maxPort < n then none else some n

/-- The address with the given text. The port stands behind the address and a colon, and an IPv6
address between brackets. -/
def parse? (s : String) : Option SocketAddress :=
  match s.toList with
  | '[' :: rest => do
    let (gs, rest) ← IpAddress.readV6? rest
    let (zone, rest) ← IpAddress.readZone? rest
    let rest ← IpAddress.readMark? ']' rest
    return ⟨.v6 gs zone, ← readPort? (← IpAddress.readMark? ':' rest)⟩
  | cs => do
    let (parts, rest) ← IpAddress.readV4? cs
    return ⟨.v4 parts, ← readPort? (← IpAddress.readMark? ':' rest)⟩

/-- An address that names no host stands for all IPv4 interfaces. -/
def completed (s : String) : String :=
  if s.toList.head? = some ':' then "0.0.0.0" ++ s else s

/-- The text in front of the last colon and the text behind it. -/
def splitPort? (cs : List Char) : Option (List Char × List Char) :=
  let port := (cs.reverse.takeWhile (· != ':')).reverse
  if port.length = cs.length then none
  else some (cs.take (cs.length - port.length - 1), port)

/-- The address to dial. A text that is no address of its own is a host name and a port. -/
def lookup (s : String) : Except IoError SocketAddress :=
  match parse? s with
  | some a => .ok a
  | none =>
    match splitPort? s.toList with
    | none => .error .notAnAddress
    | some (host, port) =>
      match readNat maxPort port with
      | .error _ => .error .notAPort
      | .ok n =>
        match IpAddress.ofHost host with
        | .ok ip => .ok ⟨ip, n⟩
        | .error e => .error e

/-- The address to listen on. -/
def resolve (s : String) : Except IoError SocketAddress := lookup (completed s)

end SocketAddress

end SpeedTest
