import PluggableHost.Tls.Der

namespace PluggableHost.Tls

open PluggableHost.Os

/-!
# Certificates

Only what a listener needs of a certificate is read: that it is one, that no
extension asks for something unknown, and whose public key it is. Dates and
signatures are for clients to check.
-/

/-- Why a certificate is not accepted. -/
inductive CertificateFault where
  | badEncoding
  | unsupportedVersion
  /-- The signature is of another algorithm than the one that was signed for. -/
  | signatureAlgorithmMismatch
  /-- An extension that must be understood is not. -/
  | unsupportedCriticalExtension
  /-- An extension occurs twice. -/
  | extensionValueInvalid
  deriving Repr, DecidableEq

/-- The fault in words. -/
def CertificateFault.message (fault : CertificateFault) : String :=
  let other (name : String) : String := "Other(OtherError(" ++ name ++ "))"
  "invalid peer certificate: " ++
    match fault with
    | badEncoding => "BadEncoding"
    | unsupportedVersion => other "UnsupportedCertVersion"
    | signatureAlgorithmMismatch => other "SignatureAlgorithmMismatch"
    | unsupportedCriticalExtension => other "UnsupportedCriticalExtension"
    | extensionValueInvalid => other "ExtensionValueInvalid"

/-- A certificate, as far as it is read. -/
structure Certificate where
  /-- The public key with its algorithm, as bytes. -/
  publicKey : Bytes
  deriving Repr, DecidableEq

/-- The result of a reading that finds nothing but bad bytes. -/
def orBad {α : Type} (reading : Option α) : Except CertificateFault α :=
  match reading with
  | some value => .ok value
  | none => .error .badEncoding

/-- The next value, which must have the tag. -/
def expect (tag : UInt8) (bytes : Bytes) : Option (Element × Bytes) := do
  let (element, rest) ← readElement bytes
  if element.tag = tag then some (element, rest) else none

/-- The start of the names of standard extensions. -/
def standardExtension : Bytes := [0x55, 0x1d]

/-- The last bytes of the names of the extensions that are understood. -/
def knownExtensions : List UInt8 := [15, 17, 19, 30, 31, 37]

/-- The extension of key usage, whose value is no sequence. -/
def keyUsage : UInt8 := 15

/-- One extension: its name, whether it must be understood, and its value. -/
structure Extension where
  name : Bytes
  critical : Bool
  value : Bytes

/-- Read an extension of a certificate. -/
def readExtension (content : Bytes) : Option Extension := do
  let (name, rest) ← expect tagName content
  let (critical, rest) ←
    match readElement rest with
    | some (element, after) =>
        if element.tag = tagBoolean then
          match element.content with
          | [0xff] => some (true, after)
          | [0x00] => some (false, after)
          | _ => none
        else some (false, rest)
    | none => some (false, rest)
  let (value, rest) ← expect tagOctetString rest
  if rest.isEmpty then some ⟨name.content, critical, value.content⟩ else none

/-- The number of a standard extension that is understood. -/
def Extension.known? (extension : Extension) : Option UInt8 :=
  match extension.name with
  | [first, second, number] =>
      if [first, second] = standardExtension && knownExtensions.contains number then some number
      else none
  | _ => none

/-- Check extensions in order, given those that were met. -/
def checkExtensions : List UInt8 → List Element → Except CertificateFault Unit
  | _, [] => .ok ()
  | met, element :: rest => do
      let content ← orBad (element.under? tagSequence)
      let extension ← orBad (readExtension content)
      match extension.known? with
      | none =>
          if extension.critical then .error .unsupportedCriticalExtension
          else checkExtensions met rest
      | some number =>
          if met.contains number then .error .extensionValueInvalid
          else if number ≠ keyUsage &&
              ((elementOf? extension.value).bind (Element.under? · tagSequence)).isNone then
            .error .badEncoding
          else checkExtensions (number :: met) rest

/-- Check what follows the public key: nothing, or the extensions. -/
def checkTail (rest : Bytes) : Except CertificateFault Unit :=
  if rest.isEmpty then .ok ()
  else do
    let field ← orBad ((elementOf? rest).bind (Element.under? · (tagField 3)))
    let list ← orBad ((elementOf? field).bind Element.children?)
    checkExtensions [] list

/-- The parts of a certificate: what is signed, and the algorithm of the signature. -/
def signedParts (bytes : Bytes) : Option (Bytes × Bytes) := do
  let outer ← (elementOf? bytes).bind (Element.under? · tagSequence)
  let (signed, rest) ← expect tagSequence outer
  let (algorithm, rest) ← expect tagSequence rest
  let (signature, rest) ← readElement rest
  let _ ← signature.bits?
  if rest.isEmpty then some (signed.content, algorithm.content) else none

/-- The signed part after its version, which must be the third. -/
def afterVersion (signed : Bytes) : Except CertificateFault Bytes :=
  match expect (tagField 0) signed with
  | none => .error .unsupportedVersion
  | some (field, rest) =>
      match readElement field.content with
      | none => .error .badEncoding
      | some (number, after) =>
          match number.natural? with
          | none => .error .badEncoding
          | some version =>
              if version = 2 && after.isEmpty then .ok rest else .error .unsupportedVersion

/-- Read a certificate of the third version. -/
def Certificate.read (bytes : Bytes) : Except CertificateFault Certificate := do
  let (signed, algorithm) ← orBad (signedParts bytes)
  let rest ← afterVersion signed
  let (_, rest) ← orBad (expect tagInteger rest)
  let (signature, rest) ← orBad (expect tagSequence rest)
  if signature.content ≠ algorithm then .error .signatureAlgorithmMismatch
  let (_, rest) ← orBad (expect tagSequence rest)
  let (_, rest) ← orBad (expect tagSequence rest)
  let (_, rest) ← orBad (expect tagSequence rest)
  let (key, rest) ← orBad (expect tagSequence rest)
  checkTail rest
  return { publicKey := key.whole }

/-- The parts of the signed part of a certificate of the first version are there. -/
def isFirstVersion (bytes : Bytes) : Bool :=
  (do
    let outer ← (elementOf? bytes).bind (Element.under? · tagSequence)
    let (signed, rest) ← expect tagSequence outer
    let (_, rest) ← expect tagSequence rest
    let (_, rest) ← expect tagBitString rest
    if rest.isEmpty then
      let (_, rest) ← expect tagInteger signed.content
      let (_, rest) ← expect tagSequence rest
      let (_, rest) ← expect tagSequence rest
      let (_, rest) ← expect tagSequence rest
      let (_, rest) ← expect tagSequence rest
      let (_, rest) ← expect tagSequence rest
      if rest.isEmpty then some () else none
    else none).isSome

/-- Whether a certificate may be trusted as a root; the first version may be, too. -/
def Certificate.acceptRoot (bytes : Bytes) : Except CertificateFault Unit :=
  match Certificate.read bytes with
  | .ok _ => .ok ()
  | .error .unsupportedVersion => if isFirstVersion bytes then .ok () else .error .badEncoding
  | .error fault => .error fault

end PluggableHost.Tls
