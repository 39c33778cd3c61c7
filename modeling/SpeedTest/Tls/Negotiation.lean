import SpeedTest.Tls.Curve
import SpeedTest.Tls.Hello
import SpeedTest.Tls.PrivateKey

/-!
What a server makes of a greeting: the reasons for which it refuses one before it has said anything
itself. A greeting that is not refused is answered, and what goes wrong later is not told here.

The newer protocol settles the kind of the key after the server's first message, the older one
before.
-/

namespace SpeedTest.Tls

/-- Why a greeting is refused. -/
inductive Refusal where
  | noNullCompression
  | wantedHost
  | noSchemes
  | noVersion
  | noCommonGroup
  | noCommonSuite
  | excessCompressions
  | noShares
  | repeatedShare
  | repeatedCertificateCompression
  | noKeyModes
  | unevenBinders
  | badShare
  | compressedPoints
  | noCommonScheme
  | certificateKind
  /-- No scheme that was offered is one of the server's key. This one is not answered. -/
  | otherScheme
deriving Repr, DecidableEq

namespace Refusal

def message : Refusal → String
  | noNullCompression => "peer is incompatible: NullCompressionRequired"
  | wantedHost => "peer misbehaved: ServerNameMustContainOneHostName"
  | noSchemes => "peer is incompatible: SignatureAlgorithmsExtensionRequired"
  | noVersion => "peer is incompatible: Tls12NotOfferedOrEnabled"
  | noCommonGroup => "peer is incompatible: NoKxGroupsInCommon"
  | noCommonSuite => "peer is incompatible: NoCipherSuitesInCommon"
  | excessCompressions => "peer misbehaved: OfferedIncorrectCompressions"
  | noShares => "peer is incompatible: KeyShareExtensionRequired"
  | repeatedShare => "peer misbehaved: OfferedDuplicateKeyShares"
  | repeatedCertificateCompression => "peer misbehaved: OfferedDuplicateCertificateCompressions"
  | noKeyModes => "peer misbehaved: MissingPskModesExtension"
  | unevenBinders => "peer misbehaved: PskExtensionWithMismatchedIdsAndBinders"
  | badShare => "peer misbehaved: InvalidKeyShare"
  | compressedPoints => "peer is incompatible: UncompressedEcPointsRequired"
  | noCommonScheme => "peer is incompatible: NoSignatureSchemesInCommon"
  | certificateKind => "peer is incompatible: IncorrectCertificateTypeExtension"
  | otherScheme => "unexpected error: incompatible signing key"

/-- The number of the alert that answers a refusal, if one does. -/
def alert? : Refusal → Option UInt8
  | noVersion => some 70
  | noSchemes | noCommonGroup | noCommonSuite | noShares | noCommonScheme | certificateKind =>
    some 40
  | noKeyModes => some 109
  | otherScheme => none
  | _ => some 47

end Refusal

/-- The protocols that a server speaks. -/
inductive Protocol where
  | older
  | newer
deriving Repr, DecidableEq

def Protocol.number : Protocol → Nat
  | older => 0x0303
  | newer => 0x0304

/-- The groups in which keys are exchanged. -/
inductive Group where
  | montgomery
  | curve (c : Curve)
  /-- The first one together with a lattice. -/
  | hybrid
deriving Repr, DecidableEq

namespace Group

/-- The groups by their numbers. -/
def numbered : List (Nat × Group) :=
  [(0x11EC, hybrid), (0x001D, montgomery), (0x0017, curve .p256), (0x0018, curve .p384)]

/-- The group with the given number in a protocol. -/
def ofNumber? (p : Protocol) (n : Nat) : Option Group :=
  (numbered.lookup n).filter fun g => p = .newer || g ≠ hybrid

/-- The residues of points that some small multiple makes zero. Keys that lie there are no use. -/
def smallOrder : List Nat :=
  [0, 1, Edwards.prime - 1,
    0x00B8495F16056286FDB1329CEB8D09DA6AC49FF1FAE35616AEB8413B7C7AEBE0,
    0x57119FD0DD4E22D8868E1C58C45C44045BEF839C55B1D0B1248C50A3BC959C5F]

/-- Whether bytes are a key in the group on the Montgomery curve. The last bit does not count. -/
def isMontgomeryKey (key : Bytes) : Bool :=
  key.length = Edwards.keyLength
    && !smallOrder.contains (Bytes.toNat key.reverse % (1 <<< 255) % Edwards.prime)

/-- The coefficients of a lattice key, two in three bytes each. -/
def coefficients : Bytes → List Nat
  | a :: b :: c :: rest =>
    (a.toNat + 256 * (b.toNat % 16)) :: (b.toNat / 16 + 16 * c.toNat) :: coefficients rest
  | _ => []

/-- The bytes of a lattice key that hold coefficients, and those of the seed behind them. -/
def latticeLength : Nat := 1152
def seedLength : Nat := 32

/-- What the coefficients of a lattice key stay below. -/
def latticeModulus : Nat := 3329

/-- Whether bytes are a key in a group. -/
def isKey (g : Group) (key : Bytes) : Bool :=
  match g with
  | montgomery => isMontgomeryKey key
  | curve c => key.head? = some 4 && (c.decode? key).isSome
  | hybrid =>
    (coefficients (key.take latticeLength)).all (· < latticeModulus)
      && isMontgomeryKey (key.drop (latticeLength + seedLength))

end Group

/-- The suites of the newer protocol. -/
def newerSuites : List Nat := [0x1301, 0x1302, 0x1303]

/-- The suites of the older protocol for a key. -/
def olderSuites : PublicKey → List Nat
  | .rsa _ _ => [0xC030, 0xC02F, 0xCCA8]
  | _ => [0xC02C, 0xC02B, 0xCCA9]

def rsaSchemes : List Nat := [0x0806, 0x0805, 0x0804, 0x0601, 0x0501, 0x0401]
def curveSchemes : List Nat := [0x0807, 0x0603, 0x0503, 0x0403]

/-- The schemes of the suites of the older protocol for a key. -/
def suiteSchemes : PublicKey → List Nat
  | .rsa _ _ => rsaSchemes
  | _ => curveSchemes

/-- The schemes in which a key signs. -/
def keySchemes : PublicKey → List Nat
  | .rsa _ _ => rsaSchemes
  | .edwards _ => [0x0807]
  | .curve c _ => if c = .p256 then [0x0403] else if c = .p384 then [0x0503] else [0x0603]

namespace Hello

/-- The protocol that a server speaks with a client. -/
def protocol? (h : Hello) : Option Protocol :=
  match h.versions with
  | some vs =>
    if vs.contains Protocol.newer.number then some .newer
    else if vs.contains Protocol.older.number then some .older
    else none
  | none => if h.version < Protocol.older.number then none else some .older

/-- The first group of a client that the server has too. -/
def group? (h : Hello) (p : Protocol) : Option (Nat × Group) :=
  (h.groups.getD []).findSome? fun n => (Group.ofNumber? p n).map fun g => (n, g)

def hasRepeated : List Nat → Bool
  | [] => false
  | n :: rest => rest.contains n || hasRepeated rest

/-- Why a greeting is refused in the newer protocol. Without a share for the group the client is
asked for one, and then nothing else matters. -/
def newerRefusal? (h : Hello) (number : Nat) (g : Group) : Option Refusal :=
  if h.compressions.length ≠ 1 then some .excessCompressions
  else
    match h.shares with
    | none => some .noShares
    | some shares =>
      if hasRepeated (shares.map KeyShare.group) then some .repeatedShare
      else if hasRepeated (h.certificateCompressions.getD []) then
        some .repeatedCertificateCompression
      else
        match shares.find? (·.group == number) with
        | none => none
        | some s =>
          if h.earlierKeys.isSome && h.keyModes.isNone then some .noKeyModes
          else if h.earlierKeys.any fun k => k.identities != k.binders then some .unevenBinders
          else if !g.isKey s.key then some .badShare
          else none

/-- Whether a client takes certificates of one kind only, and not of the usual one. -/
def takesBareKeysOnly (kinds : Option (List Nat)) : Bool :=
  kinds.any fun l => l.contains 2 && !l.contains 0

/-- Why a greeting is refused in the older protocol. -/
def olderRefusal? (h : Hello) (key : PublicKey) : Option Refusal :=
  let schemes := (suiteSchemes key).filter ((h.schemes.getD []).contains ·)
  if h.pointFormats.any fun l => !l.contains 0 then some .compressedPoints
  else if schemes.isEmpty then some .noCommonScheme
  else if takesBareKeysOnly h.serverCertificates || takesBareKeysOnly h.clientCertificates then
    some .certificateKind
  else if !schemes.any ((keySchemes key).contains ·) then some .otherScheme
  else none

/-- Why a server with the given key refuses a greeting, if it does. -/
def refusal? (h : Hello) (key : PublicKey) : Option Refusal :=
  if !h.compressions.contains 0 then some .noNullCompression
  else if h.wantedHost = some .none then some .wantedHost
  else if h.schemes.isNone then some .noSchemes
  else
    match h.protocol? with
    | none => some .noVersion
    | some p =>
      match h.group? p with
      | none => some .noCommonGroup
      | some (number, g) =>
        let suites := if p = .newer then newerSuites else olderSuites key
        if !suites.any (h.suites.contains ·) then some .noCommonSuite
        else if p = .newer then h.newerRefusal? number g
        else h.olderRefusal? key

end Hello

end SpeedTest.Tls
