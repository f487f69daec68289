import PluggableHost.Crypto.Curve
import PluggableHost.Tls.Certificate
import PluggableHost.Tls.Pem

namespace PluggableHost.Tls

open PluggableHost.Crypto PluggableHost.Os

/-!
# Private keys

A private key counts when it is a consistent RSA key of sufficient size, a key
on one of three curves, or an Ed25519 key. What is kept of it is its public
key, to be compared with that of the certificate.
-/

/-- A private key as it was found. -/
structure PrivateKey where
  /-- One of the three kinds of private keys. -/
  kind : SectionKind
  content : Bytes
  deriving Repr, DecidableEq

/-- The name of RSA. -/
def rsaName : Bytes := [0x2a, 0x86, 0x48, 0x86, 0xf7, 0x0d, 0x01, 0x01, 0x01]

/-- The name of keys on Weierstrass curves. -/
def curveKeyName : Bytes := [0x2a, 0x86, 0x48, 0xce, 0x3d, 0x02, 0x01]

/-- The name of keys on the Edwards curve. -/
def edwardsName : Bytes := [0x2b, 0x65, 0x70]

/-- A public key with its algorithm: the parts of the algorithm, and the key. -/
def publicKeyBytes (algorithm : Bytes) (key : Bytes) : Bytes :=
  elementBytes tagSequence
    (elementBytes tagSequence algorithm ++ elementBytes tagBitString (0 :: key))

/-- The numbers of an RSA key. -/
structure RsaKey where
  modulus : Nat
  publicExponent : Nat
  privateExponent : Nat
  prime1 : Nat
  prime2 : Nat
  exponent1 : Nat
  exponent2 : Nat
  coefficient : Nat

namespace RsaKey

/-- The sizes of a modulus in bits that are accepted. -/
def isSized (modulus : Nat) : Bool := Nat.pow 2 2047 ≤ modulus && modulus < Nat.pow 2 8192

/-- The numbers belong together. -/
def isConsistent (key : RsaKey) : Bool :=
  key.prime1 > 1 && key.prime2 > 1 &&
  key.modulus = key.prime1 * key.prime2 &&
  key.publicExponent * key.privateExponent % (key.prime1 - 1) = 1 &&
  key.publicExponent * key.privateExponent % (key.prime2 - 1) = 1 &&
  key.exponent1 = key.privateExponent % (key.prime1 - 1) &&
  key.exponent2 = key.privateExponent % (key.prime2 - 1) &&
  key.coefficient * key.prime2 % key.prime1 = 1

/-- Read the key from the form of its own standard. -/
def read? (bytes : Bytes) : Option RsaKey := do
  let numbers ← ((← elementOf? bytes).children?).bind (List.mapM Element.natural?)
  match numbers with
  | [0, modulus, publicExponent, privateExponent, prime1, prime2, exponent1, exponent2,
      coefficient] =>
      let key : RsaKey :=
        ⟨modulus, publicExponent, privateExponent, prime1, prime2, exponent1, exponent2,
          coefficient⟩
      if isSized modulus && key.isConsistent then some key else none
  | _ => none

/-- The public key that belongs to an RSA key. -/
def publicKey (key : RsaKey) : Bytes :=
  publicKeyBytes (elementBytes tagName rsaName ++ elementBytes tagNull [])
    (elementBytes tagSequence (naturalBytes key.modulus ++ naturalBytes key.publicExponent))

end RsaKey

/-- The field of a sequence that is marked with a number, if it comes next. -/
def nextField (number : UInt8) (elements : List Element) : Option Bytes × List Element :=
  match elements with
  | first :: rest =>
      if first.tag = tagField number then (some first.content, rest) else (none, elements)
  | [] => (none, [])

/-- The public key of a secret number on a curve, with its algorithm. -/
def curvePublicKey (curve : Weierstrass) (point : Nat × Nat) : Bytes :=
  publicKeyBytes (elementBytes tagName curveKeyName ++ elementBytes tagName curve.name)
    (curve.pointBytes point)

/-- A stated public point is the one that belongs to the key. -/
def isPoint (curve : Weierstrass) (point : Nat × Nat) (stated : Bytes) : Bool :=
  match (elementOf? stated).bind Element.bits? with
  | some bits => bits = curve.pointBytes point || bits = curve.shortPointBytes point
  | none => false

/-- Read a key on a curve from the form of its own standard: its public key. -/
def curveKey? (curve : Weierstrass) (bytes : Bytes) : Option Bytes := do
  match ← (← elementOf? bytes).children? with
  | version :: secret :: rest =>
      let number := bytesValue (← secret.under? tagOctetString)
      let (parameters, rest) := nextField 0 rest
      let (stated, rest) := nextField 1 rest
      let named := parameters.all fun content => content = elementBytes tagName curve.name
      if version.natural? = some 1 && named && rest.isEmpty && 1 ≤ number &&
          number < curve.order then
        let point := curve.publicPoint number
        if stated.all (isPoint curve point) then some (curvePublicKey curve point) else none
      else none
  | _ => none

/-- A private key with its algorithm. -/
structure Wrapped where
  /-- The parts of the algorithm. -/
  algorithm : List Element
  key : Bytes
  /-- The public key, if it is stated. -/
  stated : Option Bytes

/-- Read a key that says of what kind it is. -/
def readWrapped (bytes : Bytes) : Option Wrapped := do
  match ← (← elementOf? bytes).children? with
  | version :: algorithm :: key :: rest =>
      let number ← version.natural?
      let parts ← algorithm.children?
      let content ← key.under? tagOctetString
      let (_, rest) := nextField 0 rest
      let stated := match rest with
        | [field] => if field.tag = 0x81 then some field.content else none
        | _ => none
      if number ≤ 1 && (rest.isEmpty || stated.isSome) then some ⟨parts, content, stated⟩ else none
  | _ => none

/-- The public key of a wrapped RSA key. -/
def wrappedRsa? (wrapped : Wrapped) : Option Bytes :=
  match wrapped.algorithm with
  | [name, parameters] =>
      if name.under? tagName = some rsaName && parameters.under? tagNull = some [] then
        (RsaKey.read? wrapped.key).map RsaKey.publicKey
      else none
  | _ => none

/-- The public key of a wrapped key on a Weierstrass curve. -/
def wrappedCurve? (wrapped : Wrapped) : Option Bytes :=
  match wrapped.algorithm with
  | [name, parameters] =>
      if name.under? tagName = some curveKeyName then
        weierstrassCurves.findSome? fun curve =>
          if parameters.under? tagName = some curve.name then curveKey? curve wrapped.key else none
      else none
  | _ => none

/-- The public key of a wrapped key on the Edwards curve. -/
def wrappedEdwards? (wrapped : Wrapped) : Option Bytes :=
  match wrapped.algorithm with
  | [name] => do
      let seed ← (← elementOf? wrapped.key).under? tagOctetString
      let key := edwardsPublic seed
      let agrees := wrapped.stated.all fun stated => stated = 0 :: key
      if name.under? tagName = some edwardsName && seed.length = 32 && agrees then
        some (publicKeyBytes (elementBytes tagName edwardsName) key)
      else none
  | _ => none

namespace PrivateKey

/-- The public key that belongs to a private key of an accepted kind. -/
def publicKey? (key : PrivateKey) : Option Bytes :=
  match key.kind with
  | .rsaPrivateKey => (RsaKey.read? key.content).map RsaKey.publicKey
  | .privateKey => do
      let wrapped ← readWrapped key.content
      (wrappedRsa? wrapped).orElse fun _ =>
        (wrappedCurve? wrapped).orElse fun _ => wrappedEdwards? wrapped
  | .ecPrivateKey =>
      match readWrapped key.content with
      | some wrapped => wrappedCurve? wrapped
      | none => weierstrassCurves.findSome? fun curve => curveKey? curve key.content
  | _ => none

/-- The key of a section, if it holds one. -/
def ofSection? (part : Section) : Option PrivateKey :=
  match part.kind with
  | .privateKey | .rsaPrivateKey | .ecPrivateKey => some ⟨part.kind, part.content⟩
  | _ => none

end PrivateKey

/-- Why a certificate and a private key cannot be used together. -/
inductive PairFault where
  | unsupportedKey
  | certificate (fault : CertificateFault)
  /-- The certificate is for another key. -/
  | keyMismatch
  deriving Repr, DecidableEq

/-- The fault in words. -/
def PairFault.message : PairFault → String
  | unsupportedKey => "unexpected error: failed to parse private key as RSA, ECDSA, or EdDSA"
  | certificate fault => fault.message
  | keyMismatch => "keys may not be consistent: KeyMismatch"

/-- Check that the first certificate is for a private key. -/
def checkPair (certificates : List Bytes) (key : PrivateKey) : Except PairFault Unit :=
  match key.publicKey? with
  | none => .error .unsupportedKey
  | some publicKey =>
      match Certificate.read (certificates.headD []) with
      | .error fault => .error (.certificate fault)
      | .ok certificate =>
          if certificate.publicKey = publicKey then .ok () else .error .keyMismatch

end PluggableHost.Tls
