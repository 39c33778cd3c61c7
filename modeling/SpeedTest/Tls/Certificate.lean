import SpeedTest.Tls.Der

/-!
Certificates, as far as a server looks at its own: they must be in order, and they name a public
key.
-/

namespace SpeedTest.Tls.Certificate

/-- Why a certificate is not accepted. -/
inductive Fault where
  | encoding
  /-- It is not of the third version. -/
  | version
  /-- It is signed in another way than it says inside. -/
  | signatureAlgorithm
  /-- It has the same extension twice. -/
  | repeatedExtension
  /-- It has an extension that is not known and must not be passed over. -/
  | criticalExtension
deriving Repr, DecidableEq

def Fault.message : Fault → String
  | encoding => "invalid peer certificate: BadEncoding"
  | version => "invalid peer certificate: Other(OtherError(UnsupportedCertVersion))"
  | signatureAlgorithm => "invalid peer certificate: Other(OtherError(SignatureAlgorithmMismatch))"
  | repeatedExtension => "invalid peer certificate: Other(OtherError(ExtensionValueInvalid))"
  | criticalExtension => "invalid peer certificate: Other(OtherError(UnsupportedCriticalExtension))"

/-- What a reader makes of all the bytes. -/
def whole {α : Type} (r : Reader α) (input : Bytes) : Except Fault α :=
  match r.whole? input with
  | some a => .ok a
  | none => .error .encoding

/-- The parts of a certificate. -/
structure Parts where
  /-- What is signed. -/
  body : Bytes
  algorithm : Bytes
deriving Repr, DecidableEq

/-- From this length on the contents of a certificate are too long. -/
def lengthLimit : Nat := 0xFFFF

def parts : Reader Parts := do
  let contents ← Der.element Der.sequenceTag
  if lengthLimit ≤ contents.length then failure
  let inside : Reader Parts := do
    let body ← Der.element Der.sequenceTag
    let algorithm ← Der.element Der.sequenceTag
    discard Der.bitString
    return ⟨body, algorithm⟩
  StateT.lift (inside.whole? contents)

/-- Check the version, which stands in front. Only the third one, which is written as two, can have
extensions. -/
def checkVersion (body : Bytes) : Except Fault Bytes :=
  match Der.element (Der.fieldTag 0) body with
  | none => .error .version
  | some (contents, rest) =>
    match Der.unsigned contents with
    | none => .error .encoding
    | some (n, behind) =>
      if 0xFF < n then .error .encoding
      else if n = 2 && behind.isEmpty then .ok rest
      else .error .version

/-- An extension. -/
structure Extension where
  identifier : Bytes
  isCritical : Bool
  value : Bytes
deriving Repr, DecidableEq

/-- A truth value, which is false where it is left out. -/
def flag : Reader Bool := do
  match ← Der.element? Der.booleanTag with
  | none | some [0x00] => return false
  | some [0xFF] => return true
  | some _ => failure

def extension : Reader Extension := do
  let contents ← Der.element Der.sequenceTag
  let inside : Reader Extension := do
    let identifier ← Der.element Der.identifierTag
    let isCritical ← flag
    return ⟨identifier, isCritical, ← Der.element Der.octetStringTag⟩
  StateT.lift (inside.whole? contents)

/-- The beginning of the identifiers of the usual extensions. -/
def usualLead : Bytes := [0x55, 0x1D]

/-- The identifier of the extension that says what a key is for. Its value is not looked into. -/
def keyUsage : Bytes := usualLead ++ [15]

/-- The identifiers of the extensions that are known: what a key is for, the names it is for,
whether it may sign certificates and for which names, where to ask for revocations, and further
purposes. -/
def knownExtensions : List Bytes := [15, 17, 19, 30, 31, 37].map fun n => usualLead ++ [n]

/-- Check an extension behind others with the given identifiers. -/
def checkExtension (seen : List Bytes) (e : Extension) : Except Fault (List Bytes) :=
  if knownExtensions.contains e.identifier then
    if seen.contains e.identifier then .error .repeatedExtension
    else if e.identifier ≠ keyUsage && ((Der.element Der.sequenceTag).whole? e.value).isNone then
      .error .encoding
    else .ok (e.identifier :: seen)
  else if e.isCritical then .error .criticalExtension
  else .ok seen

/-- Check extensions one after the other. There are at most `limit`. -/
def checkExtensions (limit : Nat) (seen : List Bytes) (input : Bytes) : Except Fault Unit :=
  match input, limit with
  | [], _ => .ok ()
  | _, 0 => .error .encoding
  | input, limit + 1 =>
    match extension input with
    | none => .error .encoding
    | some (e, rest) =>
      match checkExtension seen e with
      | .error fault => .error fault
      | .ok seen' => checkExtensions limit seen' rest

/-- The field with the extensions. -/
def extensionField : Reader Bytes := do
  let contents ← Der.element (Der.fieldTag 3)
  StateT.lift ((Der.element Der.sequenceTag).whole? contents)

/-- Check what stands behind the public key: nothing, or the extensions. -/
def checkEnd (input : Bytes) : Except Fault Unit :=
  match input with
  | [] => .ok ()
  | _ => do
    let list ← whole extensionField input
    checkExtensions list.length [] list

/-- The description of the public key of a certificate. -/
def keyInfo (der : Bytes) : Except Fault Bytes := do
  let p ← whole parts der
  let rest ← checkVersion p.body
  let front : Reader Bytes := do
    discard (Der.element Der.integerTag)
    Der.element Der.sequenceTag
  match front rest with
  | none => .error .encoding
  | some (algorithm, rest) =>
    if algorithm ≠ p.algorithm then .error .signatureAlgorithm
    else
      -- the issuer, the time, the subject, and the key
      let middle : Reader Bytes := do
        discard (Der.element Der.sequenceTag)
        discard (Der.element Der.sequenceTag)
        discard (Der.element Der.sequenceTag)
        Der.element Der.sequenceTag
      match middle rest with
      | none => .error .encoding
      | some (key, rest) => (checkEnd rest).map fun _ => key

end SpeedTest.Tls.Certificate
