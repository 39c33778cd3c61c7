import SpeedTest.WebSocket.Link
import SpeedTest.Digest.Sha1
import SpeedTest.Text.Base64
import SpeedTest.Text.Blank

/-!
The opening of a WebSocket connection: the client's request is read and checked, and answered with
a change of protocols or a refusal.

The checks run in a fixed order, and the first that fails decides: the syntax of the request, its
method and version, its target, bytes behind it, the four fields that ask for the change, and last
the path.
-/

namespace SpeedTest.WebSocket

/-- The path on which speed tests are served. -/
def servedPath : Bytes := Bytes.ofAscii "/ndt_protocol"

/-- The sub-protocol of speed tests. -/
def subProtocol : String := "ndt"

/-- What the hash of an answer takes in behind the client's key. -/
def keySuffix : Bytes := Bytes.ofAscii "258EAFA5-E914-47DA-95CA-C5AB0DC85B11"

/-- The answer to a client's key. -/
def acceptKey (key : Bytes) : Bytes := Base64.encode (Sha1.digest (key ++ keySuffix))

/-- The text of a value that holds nothing but visible ASCII characters, spaces and tabs. -/
def asciiText? (value : Bytes) : Option String :=
  if value.all fun b => b.toNat == 9 || (0x20 ≤ b.toNat && b.toNat ≤ 0x7E) then
    some (String.ofList (value.map fun b => Char.ofNat b.toNat))
  else none

/-- Cut a text at every character of the given class. -/
def splitChars (isCut : Char → Bool) (cs : List Char) : List (List Char) :=
  cs.foldr
    (fun c pieces =>
      if isCut c then [] :: pieces
      else
        match pieces with
        | piece :: pieces => (c :: piece) :: pieces
        | [] => [[c]])
    [[]]

/-- Whether a list of values holds the given one, up to the case of letters. -/
def listsUpgrade (value : Bytes) : Bool :=
  match asciiText? value with
  | none => false
  | some text =>
    (splitChars (fun c => c = ' ' || c = ',') text.toList).any fun word =>
      word.map Char.toLower = "upgrade".toList

/-- Whether a value is `websocket`, up to the case of letters. -/
def namesWebSocket (value : Bytes) : Bool :=
  Bytes.sameLetters value (Bytes.ofAscii "websocket")

/-- The key of a request that asks for a change to WebSocket. -/
def checkRequest (h : Http.Head) : Except Error Bytes :=
  if !(h.value? "Connection").any listsUpgrade then .error (.breach .missingConnectionUpgrade)
  else if !(h.value? "Upgrade").any namesWebSocket then .error (.breach .missingUpgrade)
  else if h.value? "Sec-WebSocket-Version" ≠ some (Bytes.ofAscii "13") then
    .error (.breach .missingVersion)
  else
    match h.value? "Sec-WebSocket-Key" with
    | none => .error (.breach .missingKey)
    | some key => .ok key

/-- The sub-protocols that a request offers, over all fields and their commas. -/
def offers (h : Http.Head) : List String :=
  ((h.values "Sec-WebSocket-Protocol").filterMap asciiText?).flatMap fun text =>
    (splitChars (· = ',') text.toList).map fun piece => String.ofList (Text.trimChars piece)

/-- Whether a request offers the sub-protocol of speed tests. -/
def offersSubProtocol (h : Http.Head) : Bool := (offers h).contains subProtocol

/-- A line of an answer. -/
def line (s : String) : Bytes := Bytes.ofAscii s ++ [0x0D, 0x0A]

/-- The answer that changes protocols. -/
def acceptance (key : Bytes) (offered : Bool) : Bytes :=
  line "HTTP/1.1 101 Switching Protocols" ++ line "connection: Upgrade"
    ++ line "upgrade: websocket"
    ++ Bytes.ofAscii "sec-websocket-accept: " ++ acceptKey key ++ [0x0D, 0x0A]
    ++ (if offered then line ("sec-websocket-protocol: " ++ subProtocol) else [])
    ++ [0x0D, 0x0A]

/-- The status of the answer to a request for any other path. -/
def notFound : String := "404 Not Found"

/-- The answer to a request for any other path. -/
def refusal : Bytes :=
  line ("HTTP/1.1 " ++ notFound) ++ [0x0D, 0x0A] ++ Bytes.ofAscii "not found"

/-- A request that has been read and asks for a change of protocols. -/
structure Request where
  path : Bytes
  key : Bytes
  offered : Bool
deriving Repr, DecidableEq

/-- Check a request behind which the given bytes have arrived. -/
def checkHead (h : Http.Head) (behind : Bytes) : Except Error Request :=
  if h.method ≠ Bytes.ofAscii "GET" then .error (.breach .wrongMethod)
  else if h.version ≠ .http11 then .error (.breach .wrongHttpVersion)
  else
    match Http.Target.path h.target with
    | .error fault => .error (.target fault)
    | .ok path =>
      if behind ≠ [] then .error (.breach .junkAfterRequest)
      else
        match checkRequest h with
        | .error e => .error e
        | .ok key => .ok ⟨path, key, offersSubProtocol h⟩

/-- The most header fields of a request. -/
def maxFields : Nat := 124

/-- The most bytes that one read takes from the stream while a request is read. -/
def requestPieceSize : Nat := 4096

/-- The longest request. -/
def maxRequestLength : Nat := 65536

/-- The most pieces in which a request may arrive. -/
def maxPieces : Nat := 512

/-- From this number of pieces on, they must hold `minPieceSize` bytes on the average. -/
def pieceThreshold : Nat := 64

def minPieceSize : Nat := 128

/-- Whether a request arrives in a way that only an attacker chooses. -/
def isAttack (pieces length : Nat) : Bool :=
  maxRequestLength < length || maxPieces < pieces
    || (pieceThreshold < pieces && length < pieces * minPieceSize)

/-- The request in the bytes that have arrived, if it is complete. -/
def requestIn? (got : Bytes) : Except Error (Option Request) :=
  match Http.Head.read? maxFields (fun t => (Utf8.decodeChars? t).isSome) got with
  | .error .tooManyFields => .error (.excess .headers)
  | .error fault => .error (.breach (.head fault))
  | .ok none => .ok none
  | .ok (some (h, behind)) => (checkHead h behind).map some

/-- Read a request. `left` more pieces may arrive before their number alone betrays an attack, and
`got` holds what `pieces` pieces have brought. -/
def readRequest (left pieces : Nat) (got : Bytes) : Action Stream Error Request := fun s =>
  match Stream.read requestPieceSize s with
  | (.failed e, s') => (.failed (.io e), s')
  | (.pending, s') => (.pending, s')
  | (.done bs, s') =>
    if bs.isEmpty then (.failed (.breach .handshakeIncomplete), s')
    else
      let got' := got ++ bs
      if isAttack (pieces + 1) got'.length then (.failed .attack, s')
      else
        match requestIn? got', left with
        | .error e, _ => (.failed e, s')
        | .ok (some r), _ => (.done r, s')
        | .ok none, 0 => (.failed .attack, s')
        | .ok none, left + 1 => readRequest left (pieces + 1) got' s'

/-- Write an answer in full. -/
def answer (bs : Bytes) : Action Stream Error Unit := do
  (Stream.writeAll bs).mapError .io
  Stream.flush.mapError .io

/-- Read the client's request and answer it. Only a request for the served path opens a
connection. -/
def upgrade : Action Stream Error Unit := do
  let r ← readRequest maxPieces 0 []
  if r.path = servedPath then answer (acceptance r.key r.offered)
  else
    answer refusal
    Action.fail (.refused notFound)

end SpeedTest.WebSocket
