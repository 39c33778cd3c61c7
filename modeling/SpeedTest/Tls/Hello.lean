import SpeedTest.Tls.HostName
import SpeedTest.Tls.Reader

/-!
The greeting of a TLS client: the version, some random bytes, the session that it would like to
resume, what it offers of suites and compressions, and extensions.

An extension that is known must be in order even if nothing depends on it. No extension stands
twice, and the one that offers keys of earlier sessions stands last.
-/

namespace SpeedTest.Tls

/-- The host that a client says it wants to reach. -/
inductive WantedHost where
  /-- A name or an address. -/
  | host
  /-- It names none that is known how to read. -/
  | none
deriving Repr, DecidableEq

/-- A client's half of a key exchange. -/
structure KeyShare where
  group : Nat
  key : Bytes
deriving Repr, DecidableEq

/-- An offer of keys of earlier sessions. -/
structure EarlierKeys where
  identities : Nat
  binders : Nat
deriving Repr, DecidableEq

/-- A greeting. What stands in extensions is there if these are. -/
structure Hello where
  version : Nat
  suites : List Nat
  compressions : List Nat
  wantedHost : Option WantedHost
  groups : Option (List Nat)
  pointFormats : Option (List Nat)
  schemes : Option (List Nat)
  clientCertificates : Option (List Nat)
  serverCertificates : Option (List Nat)
  certificateCompressions : Option (List Nat)
  versions : Option (List Nat)
  keyModes : Option (List Nat)
  shares : Option (List KeyShare)
  earlierKeys : Option EarlierKeys
deriving Repr, DecidableEq

namespace Hello

/-- The type of the extension with the wanted host. -/
def hostType : Nat := 0

/-- The type of the extension that offers keys of earlier sessions. -/
def earlierKeysType : Nat := 41

/-- An extension. -/
structure Extension where
  type : Nat
  body : Bytes
deriving Repr, DecidableEq

def extension : Reader Extension := do
  return ⟨← Reader.number 2, ← Reader.block 2⟩

/-- Whether no extension stands twice, and the one that must stand last does. -/
def areInOrder : List Extension → Bool
  | [] => true
  | e :: rest =>
    (e.type != earlierKeysType || rest.isEmpty) && !rest.any (·.type == e.type) && areInOrder rest

/-- The extensions behind the rest of a greeting, which may be left out together. -/
def extensions : Reader (List Extension) := fun input =>
  if input.isEmpty then some ([], [])
  else
    match Reader.items 2 extension input with
    | some (es, rest) => if areInOrder es then some (es, rest) else none
    | none => none

/-- The list of wanted hosts. The first entry can be a name or an address. An entry of another kind
ends the list, as nothing is known about its length, and there is only one of this kind. -/
def hostList : Reader WantedHost := do
  match ← Reader.block 2 with
  | 0 :: entry =>
    match Reader.filledBlock 2 entry with
    | some (name, behind) =>
      if HostName.isHost name && behind.head? != some 0 then return .host else failure
    | none => failure
  | _ => return .none

/-- A list of numbers of the given width, with at least one, behind its length. -/
def numbers (lengthWidth width : Nat) : Reader (List Nat) :=
  Reader.filledItems lengthWidth (Reader.number width)

def share : Reader KeyShare := do return ⟨← Reader.number 2, ← Reader.filledBlock 2⟩

def keyOffer : Reader EarlierKeys := do
  let identity : Reader Unit := do
    discard (Reader.filledBlock 2)
    discard (Reader.number 4)
  let identities ← Reader.filledItems 2 identity
  let binders ← Reader.filledItems 2 (Reader.filledBlock 1)
  return ⟨identities.length, binders.length⟩

/-- A request for the state of a certificate. Only the first kind of request is known. -/
def statusRequest : Reader Unit := do
  if (← Reader.number 1) = 1 then
    discard (Reader.items 2 (Reader.block 2))
    discard (Reader.block 2)
  else discard Reader.rest

/-- A hidden greeting, or the mark that this is one. -/
def hiddenHello : Reader Unit := do
  let kind ← Reader.number 1
  if kind = 0 then
    discard (Reader.bytes 5)
    discard (Reader.block 2)
    discard (Reader.filledBlock 2)
  else if kind ≠ 1 then failure

/-- The extensions of which nothing but their form matters, with readers for them: the state of the
certificate, protocols, a stronger secret, early data, a cookie, authorities, renegotiation, and a
hidden greeting with what it borrows from outside. -/
def formal : List (Nat × Reader Unit) :=
  [(5, statusRequest),
    (16, discard (Reader.filledItems 2 (Reader.filledBlock 1))),
    (23, pure ()),
    (42, pure ()),
    (44, discard (Reader.filledBlock 2)),
    (47, discard (Reader.filledItems 2 (Reader.filledBlock 2))),
    (0xFF01, discard (Reader.block 1)),
    (0xFE0D, hiddenHello),
    (0xFD00, discard (numbers 1 2))]

/-- Whether an extension of which nothing but its form matters has it. -/
def isFormal (e : Extension) : Bool :=
  match formal.lookup e.type with
  | some r => (r.whole? e.body).isSome
  | none => true

/-- What an extension of the given type says, if there is one. -/
def said {α : Type} (es : List Extension) (type : Nat) (r : Reader α) : Reader (Option α) :=
  match es.find? (·.type == type) with
  | none => return none
  | some e =>
    match r.whole? e.body with
    | some a => return some a
    | none => failure

/-- The longest name of a session. -/
def maxSession : Nat := 32

/-- A greeting. -/
def read : Reader Hello := do
  let version ← Reader.number 2
  discard (Reader.bytes 32)
  if maxSession < (← Reader.block 1).length then failure
  let suites ← numbers 2 2
  let compressions ← numbers 1 1
  let es ← extensions
  if !es.all isFormal then failure
  return {
    version
    suites
    compressions
    wantedHost := ← said es hostType hostList
    groups := ← said es 10 (numbers 2 2)
    pointFormats := ← said es 11 (numbers 1 1)
    schemes := ← said es 13 (numbers 2 2)
    clientCertificates := ← said es 19 (numbers 1 1)
    serverCertificates := ← said es 20 (numbers 1 1)
    certificateCompressions := ← said es 27 (numbers 1 2)
    versions := ← said es 43 (numbers 1 2)
    keyModes := ← said es 45 (numbers 1 1)
    shares := ← said es 51 (Reader.items 2 share)
    earlierKeys := ← said es earlierKeysType keyOffer }

end Hello

end SpeedTest.Tls
