import SpeedTest.Text.Base64
import SpeedTest.Text.Quoted
import SpeedTest.Text.Utf8

/-!
Certificates and keys in text files: sections of base64 between a line that names their kind and a
line that names it again.
-/

namespace SpeedTest.Pem

/-- The forms of private keys. -/
inductive KeyForm where
  | pkcs1
  | sec1
  | pkcs8
deriving Repr, DecidableEq

/-- What sections hold. -/
inductive Kind where
  | certificate
  | key (form : KeyForm)
  | publicKey
  | revocations
  | request
  | echConfig
deriving Repr, DecidableEq

/-- The kind of the sections with the given label. -/
def Kind.ofLabel? (label : Bytes) : Option Kind :=
  if label = Bytes.ofAscii "CERTIFICATE" then some .certificate
  else if label = Bytes.ofAscii "PRIVATE KEY" then some (.key .pkcs8)
  else if label = Bytes.ofAscii "RSA PRIVATE KEY" then some (.key .pkcs1)
  else if label = Bytes.ofAscii "EC PRIVATE KEY" then some (.key .sec1)
  else if label = Bytes.ofAscii "PUBLIC KEY" then some .publicKey
  else if label = Bytes.ofAscii "X509 CRL" then some .revocations
  else if label = Bytes.ofAscii "CERTIFICATE REQUEST" then some .request
  else if label = Bytes.ofAscii "ECHCONFIG" then some .echConfig
  else none

/-- Why a file cannot be read. -/
inductive Fault where
  | illegalStart (line : Bytes)
  | missingEnd (label : Bytes)
  | base64 (fault : Base64.Fault)
deriving Repr, DecidableEq

/-- A text in a message, with a replacement for bytes that are no text. -/
def shownText (bs : Bytes) : String :=
  String.ofList (Text.quotedChars (Utf8.decodeLossy .start bs))

def Fault.message : Fault → String
  | illegalStart line => "illegal section start: " ++ shownText line
  | missingEnd label => "section end " ++ shownText label ++ " missing"
  | base64 fault => fault.message

/-- The contents of a section of a known kind. -/
structure Item where
  kind : Kind
  der : Bytes
deriving Repr, DecidableEq

/-- The lines of a file, each with the byte that ends it. -/
def lines (file : Bytes) : List Bytes :=
  file.foldr
    (fun b lines =>
      if b = 0x0A ∨ b = 0x0D then [b] :: lines
      else
        match lines with
        | line :: lines =>
          if line.isEmpty then [b] :: lines else (b :: line) :: lines
        | [] => [[b]])
    []

def beginMark : Bytes := Bytes.ofAscii "-----BEGIN "
def endMark : Bytes := Bytes.ofAscii "-----END "
def dashes : Bytes := Bytes.ofAscii "-----"

/-- The dashes at the end of a line, which is given last byte first, and what stands in front of
them. Blanks and line ends between and behind them do not count. -/
def cutDashes (count : Nat) (front : Bytes) : Bytes → Nat × Bytes
  | [] => (count, front)
  | b :: rest =>
    if b = 0x2D then cutDashes (count + 1) rest rest
    else if b = 0x0A ∨ b = 0x0D ∨ b = 0x20 then cutDashes count front rest
    else (count, front)

/-- The label of a line that begins a section: what stands in front of exactly five dashes at the
end. -/
def startLabel (line : Bytes) : Except Fault Bytes :=
  let (count, front) := cutDashes 0 line.reverse line.reverse
  if count = dashes.length then .ok (front.reverse.drop beginMark.length)
  else .error (.illegalStart line)

/-- Whether a line ends a section with the given label. -/
def endsSection (label line : Bytes) : Bool := Bytes.startsWith (endMark ++ label ++ dashes) line

/-- Where a reader stands: in a section, if it is in one, and with the base64 lines read so far,
last first. -/
structure Reader where
  label : Option Bytes
  lines : List Bytes
deriving Repr, DecidableEq

/-- Outside of all sections. -/
def Reader.outside : Reader := ⟨none, []⟩

/-- The contents of a section that ends. Sections of unknown kinds are passed over. -/
def finish (label : Bytes) (lines : List Bytes) : Except Fault (Option Item) :=
  match Kind.ofLabel? label with
  | none => .ok none
  | some kind =>
    match Base64.decode lines.reverse.flatten with
    | .error fault => .error (.base64 fault)
    | .ok der => .ok (some ⟨kind, der⟩)

/-- Take in a line: the new place and the contents of the section that it ends. A section that
begins inside another takes over its lines. -/
def Reader.feed (r : Reader) (line : Bytes) : Except Fault (Reader × Option Item) :=
  if Bytes.startsWith beginMark line then
    match startLabel line with
    | .error fault => .error fault
    | .ok label => .ok (⟨some label, r.lines⟩, none)
  else
    match r.label with
    | none => .ok (r, none)
    | some label =>
      if endsSection label line then
        match finish label r.lines with
        | .error fault => .error fault
        | .ok item => .ok (.outside, item)
      else .ok (⟨some label, line :: r.lines⟩, none)

/-- The items of a file up to its first fault, and that fault. -/
def read (r : Reader) : List Bytes → List Item × Option Fault
  | [] => ([], r.label.map .missingEnd)
  | line :: rest =>
    match r.feed line with
    | .error fault => ([], some fault)
    | .ok (r', none) => read r' rest
    | .ok (r', some item) =>
      let (items, fault) := read r' rest
      (item :: items, fault)

/-- The items of a file up to its first fault, and that fault. -/
def items (file : Bytes) : List Item × Option Fault := read .outside (lines file)

/-- The certificates of a file without faults. -/
def certificates (file : Bytes) : Except Fault (List Bytes) :=
  match items file with
  | (_, some fault) => .error fault
  | (all, none) =>
    .ok (all.filterMap fun item => if item.kind = .certificate then some item.der else none)

/-- A private key. -/
structure PrivateKey where
  form : KeyForm
  der : Bytes
deriving Repr, DecidableEq

/-- The key that an item holds. -/
def Item.key? (item : Item) : Option PrivateKey :=
  match item.kind with
  | .key form => some ⟨form, item.der⟩
  | _ => none

/-- The first private key of a file. Faults behind it do not matter. -/
def privateKey (file : Bytes) : Except Fault (Option PrivateKey) :=
  match items file with
  | (all, fault) =>
    match all.findSome? Item.key?, fault with
    | some k, _ => .ok (some k)
    | none, some f => .error f
    | none, none => .ok none

end SpeedTest.Pem
