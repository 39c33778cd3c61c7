import SpeedTest.Tls.Curve
import SpeedTest.Tls.Edwards
import SpeedTest.Tls.Pem
import SpeedTest.Tls.Rsa

/-!
The private keys that a server can use, and the public keys that belong to them.

A key stands alone, in a form of its own, or behind the name of its kind in the common form. What
follows a key is passed over, but nothing may follow it inside the common form.
-/

namespace SpeedTest.Tls

/-- A public key. -/
inductive PublicKey where
  | rsa (modulus exponent : Nat)
  | curve (c : Curve) (p : Nat × Nat)
  | edwards (key : Bytes)
deriving Repr, DecidableEq

namespace PublicKey

def rsaIdentifier : Bytes := [0x2A, 0x86, 0x48, 0x86, 0xF7, 0x0D, 0x01, 0x01, 0x01]
def curveIdentifier : Bytes := [0x2A, 0x86, 0x48, 0xCE, 0x3D, 0x02, 0x01]
def edwardsIdentifier : Bytes := [0x2B, 0x65, 0x70]

/-- The element that names a kind of keys or a curve. -/
def encodeIdentifier (id : Bytes) : Bytes := Der.encode Der.identifierTag id

/-- What stands behind the name of a kind of keys where none is needed. -/
def encodedNull : Bytes := Der.encode Der.nullTag []

/-- The name of the kind of a key. -/
def algorithm : PublicKey → Bytes
  | rsa _ _ => encodeIdentifier rsaIdentifier ++ encodedNull
  | curve c _ => encodeIdentifier curveIdentifier ++ encodeIdentifier c.identifier
  | edwards _ => encodeIdentifier edwardsIdentifier

/-- The bytes of a key. -/
def bytes : PublicKey → Bytes
  | rsa n e => Der.encode Der.sequenceTag (Der.encodeUnsigned n ++ Der.encodeUnsigned e)
  | curve c p => c.encode p
  | edwards key => key

/-- The description of a key in a certificate. -/
def info (k : PublicKey) : Bytes :=
  Der.encode Der.sequenceTag k.algorithm ++ Der.encodeBitString k.bytes

end PublicKey

namespace PrivateKey

/-- What a reader makes of a field that may be left out. -/
def optionalField {α : Type} (tag : Nat) (r : Reader α) : Reader (Option α) := do
  match ← Der.element? tag with
  | none => return none
  | some contents =>
    match r.whole? contents with
    | some a => return some a
    | none => failure

/-- The public key of a key on a curve, which may be told with the key and must then be right. -/
def onCurve (c : Curve) : Reader PublicKey := do
  let contents ← Der.element Der.sequenceTag
  let inside : Reader PublicKey := do
    if (← Der.unsigned) ≠ 1 then failure
    let n := Bytes.toNat (← Der.element Der.octetStringTag)
    let named ← optionalField (Der.fieldTag 0) (Der.element Der.identifierTag)
    let told ← optionalField (Der.fieldTag 1) Der.bitString
    if named.any (· != c.identifier) || n = 0 || c.order ≤ n then failure
    match c.multiple (some c.generator) n with
    | none => failure
    | some p =>
      if told.any fun bs => c.decode? bs != some p then failure
      return .curve c p
  StateT.lift (inside.whole? contents)

/-- A key in the common form. -/
structure Common where
  algorithm : Bytes
  key : Bytes
  publicKey : Option Bytes
deriving Repr, DecidableEq

/-- The newest version of the common form, in which a public key may be told. -/
def newestVersion : Nat := 1

def common : Reader Common := do
  let contents ← Der.element Der.sequenceTag
  let inside : Reader Common := do
    let version ← Der.unsigned
    if newestVersion < version then failure
    let algorithm ← Der.element Der.sequenceTag
    let key ← Der.element Der.octetStringTag
    discard (Der.element? (Der.fieldTag 0))
    let publicKey ←
      if version = newestVersion then Der.element? (Der.plainTag 1) else pure none
    return ⟨algorithm, key, publicKey⟩
  match inside contents with
  | some (k, _) => return k
  | none => failure

/-- The public key of a key on the Edwards curve. -/
def onEdwards (k : Common) : Option PublicKey := do
  let key ← (Der.element Der.octetStringTag).whole? k.key
  if key.length ≠ Edwards.keyLength then none
  else
    let p := Edwards.publicKey key
    if k.publicKey.any (· != 0 :: p) then none else some (.edwards p)

/-- The public key of a key in the common form. -/
def ofCommon (k : Common) : Option PublicKey :=
  if k.algorithm = PublicKey.algorithm (.edwards []) then onEdwards k
  else if k.publicKey.isSome then none
  else if k.algorithm = PublicKey.algorithm (.rsa 0 0) then
    (RsaKey.read.whole? k.key).map fun r => .rsa r.modulus r.publicExponent
  else
    Curve.all.findSome? fun c =>
      if k.algorithm = PublicKey.algorithm (.curve c c.generator) then (onCurve c).whole? k.key
      else none

/-- What a reader makes of the front of bytes. -/
def front? {α : Type} (r : Reader α) (input : Bytes) : Option α := (r input).map Prod.fst

/-- The public key that belongs to a private one, if a server can use that. -/
def publicKey? (k : Pem.PrivateKey) : Option PublicKey :=
  match k.form with
  | .pkcs1 => (front? RsaKey.read k.der).map fun r => .rsa r.modulus r.publicExponent
  | .sec1 => Curve.all.findSome? fun c => front? (onCurve c) k.der
  | .pkcs8 => (front? common k.der).bind ofCommon

end PrivateKey

end SpeedTest.Tls
