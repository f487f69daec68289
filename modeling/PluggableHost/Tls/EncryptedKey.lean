import PluggableHost.Crypto.Aes
import PluggableHost.Tls.PrivateKey

namespace PluggableHost.Tls

open PluggableHost.Crypto PluggableHost.Os

/-!
# Encrypted private keys

An encrypted key says how its password is stretched and which cipher was used.
It is read strictly: one mistake in the armour or in the values inside, and
nothing is decrypted.
-/

/-- The label of the block that holds an encrypted key. -/
def encryptedLabel : String := "ENCRYPTED PRIVATE KEY"

/-- Why an encrypted key could not be used. -/
inductive EncryptedKeyFault where
  /-- The line that opens the armour does not end after its mark. -/
  | openingLine
  /-- The line that closes the armour does not start with its mark. -/
  | closingLine
  | base64
  /-- There is no base64 at all. -/
  | emptyBase64
  /-- There are header lines before the base64. -/
  | headers
  /-- The values inside are not those of an encrypted key. -/
  | values
  /-- The password is wrong, or something is used that is not offered. -/
  | undecryptable
  deriving Repr, DecidableEq

/-- The fault in words. -/
def EncryptedKeyFault.message (fault : EncryptedKeyFault) : String :=
  let malformed (words : String) : String := "malformed encrypted key: " ++ words
  match fault with
  | openingLine => malformed "PEM type label invalid"
  | closingLine => malformed "PEM error in post-encapsulation boundary"
  | base64 => malformed "PEM Base64 error: invalid Base64 encoding"
  | emptyBase64 => malformed "PEM Base64 error: invalid Base64 length"
  | headers => malformed "PEM headers disallowed by RFC7468"
  | values => malformed "PKCS#8 ASN.1 error"
  | undecryptable =>
      "unable to decrypt private key: wrong password or unsupported cipher"

/-- The bytes after a line break at the front. -/
def afterLineBreak? : Bytes → Option Bytes
  | 13 :: 10 :: rest => some rest
  | 13 :: rest => some rest
  | 10 :: rest => some rest
  | _ => none

/-- The bytes before a line break at the end. -/
def beforeLineBreak? (bytes : Bytes) : Option Bytes :=
  match bytes.reverse with
  | 10 :: 13 :: rest => some rest.reverse
  | 10 :: rest => some rest.reverse
  | 13 :: rest => some rest.reverse
  | _ => none

/-- Decode the base64 between the marks of a block. -/
def decodeBlock (block : Bytes) : Except EncryptedKeyFault Bytes :=
  let inner := (block.drop (openingMark encryptedLabel).length).take
    (block.length - (openingMark encryptedLabel).length - (closingMark encryptedLabel).length)
  match afterLineBreak? inner with
  | none => .error .openingLine
  | some text =>
      match beforeLineBreak? text with
      | none => .error .closingLine
      | some [] => .error .emptyBase64
      | some text =>
          match decodeStrict? text with
          | some content => .ok content
          | none => .error (if block.contains 58 then .headers else .base64)

/-- How a password is stretched. -/
inductive Stretching where
  /-- By PBKDF2, unless its hash function is not offered. -/
  | pbkdf2 (hash : Option HashFunction) (salt : Bytes) (iterations : Nat)
  | scrypt (salt : Bytes) (cost : ScryptCost)

/-- How a key is encrypted. -/
inductive Scheme where
  /--
  With AES in chained blocks: the length of the key, if it is stated, its due
  length, and the start.
  -/
  | aes (stretching : Stretching) (stated : Option Nat) (keyLength : Nat) (start : Bytes)
  /-- With a cipher that is known but not offered. -/
  | notOffered

/-- The start of the names of the hash functions for stretching. -/
def digestNames : Bytes := [0x2a, 0x86, 0x48, 0x86, 0xf7, 0x0d, 0x02]

/-- The start of the names of password based encryption. -/
def passwordNames : Bytes := [0x2a, 0x86, 0x48, 0x86, 0xf7, 0x0d, 0x01, 0x05]

/-- The name of scrypt. -/
def scryptName : Bytes := [0x2b, 0x06, 0x01, 0x04, 0x01, 0xda, 0x47, 0x04, 0x0b]

/-- The start of the names of AES with its modes. -/
def aesNames : Bytes := [0x60, 0x86, 0x48, 0x01, 0x65, 0x03, 0x04, 0x01]

/-- A name and one parameter. -/
def named? (element : Element) : Option (Bytes × Element) := do
  match ← element.children? with
  | [name, parameter] => return (← name.under? tagName, parameter)
  | _ => none

/-- A number within a bound. -/
def bounded? (element : Element) (bound : Nat) : Option Nat :=
  element.natural?.filter fun value => value < bound

/-- The number at the front, if there is one, and what follows. -/
def optionalNumber (bound : Nat) (elements : List Element) :
    Option (Option Nat × List Element) :=
  match elements with
  | first :: rest =>
      if first.tag = tagInteger then (bounded? first bound).map fun value => (some value, rest)
      else some (none, elements)
  | [] => some (none, [])

/-- The hash function of a name, if the name is known; SHA-1 is known but not offered. -/
def digestOf? (name : Bytes) : Option (Option HashFunction) :=
  if name = digestNames ++ [7] then some none
  else if name = digestNames ++ [8] then some (some sha224)
  else if name = digestNames ++ [9] then some (some sha256)
  else if name = digestNames ++ [10] then some (some sha384)
  else if name = digestNames ++ [11] then some (some sha512)
  else none

/-- The hash function that parameters name; SHA-1 when they name none. -/
def readDigest : List Element → Option (Option HashFunction)
  | [] => some none
  | [element] => do
      let (name, parameter) ← named? element
      if parameter.under? tagNull = some [] then digestOf? name else none
  | _ => none

/-- How a password is stretched, and the length of the key, if it is stated. -/
def readStretching (element : Element) : Option (Stretching × Option Nat) := do
  let (name, parameters) ← named? element
  match ← parameters.children? with
  | salt :: first :: rest =>
      let salt ← salt.under? tagOctetString
      if name = passwordNames ++ [12] then
        let iterations ← bounded? first (Nat.pow 2 32)
        let (length, rest) ← optionalNumber (Nat.pow 2 16) rest
        return (.pbkdf2 (← readDigest rest) salt iterations, length)
      else if name = scryptName then
        let cost ← bounded? first (Nat.pow 2 64)
        match rest with
        | blockSize :: parallel :: rest =>
            let (length, rest) ← optionalNumber (Nat.pow 2 16) rest
            if rest.isEmpty then
              let blockSize ← bounded? blockSize (Nat.pow 2 16)
              let parallel ← bounded? parallel (Nat.pow 2 16)
              return (.scrypt salt ⟨cost, blockSize, parallel⟩, length)
            else none
        | _ => none
      else none
  | _ => none

/-- The length of the key that a cipher takes, if the cipher is offered. -/
def cipherKey? (name : Bytes) : Option Nat :=
  if name = aesNames ++ [2] then some 16
  else if name = aesNames ++ [22] then some 24
  else if name = aesNames ++ [42] then some 32
  else none

/-- The last bytes of the names of older schemes, which are known but not offered. -/
def olderSchemes : List UInt8 := [1, 3, 4, 6, 10, 11]

/-- The parameters of an older scheme: eight bytes of salt and a count. -/
def isOlderScheme (name : Bytes) (parameters : Element) : Bool :=
  (olderSchemes.any fun last => name = passwordNames ++ [last]) &&
    match parameters.children? with
    | some [salt, count] =>
        (salt.under? tagOctetString).any (fun bytes => bytes.length = 8) &&
          (bounded? count (Nat.pow 2 16)).isSome
    | _ => false

/-- Read how a key is encrypted. -/
def readScheme (element : Element) : Option Scheme := do
  let (name, parameters) ← named? element
  if name = passwordNames ++ [13] then
    match ← parameters.children? with
    | [stretching, cipher] =>
        let (stretching, stated) ← readStretching stretching
        let (cipherName, start) ← named? cipher
        let start ← start.under? tagOctetString
        let length ← cipherKey? cipherName
        if start.length = 16 then return .aes stretching stated length start else none
    | _ => none
  else if isOlderScheme name parameters then return .notOffered
  else none

/-- The scheme and the cipher text of an encrypted key. -/
def readEncrypted (content : Bytes) : Option (Scheme × Bytes) := do
  match ← (← elementOf? content).children? with
  | [scheme, cipher] => return (← readScheme scheme, ← cipher.under? tagOctetString)
  | _ => none

/-- The cost of scrypt makes sense. -/
def isUsable (cost : ScryptCost) : Bool :=
  cost.cost > 0 && Nat.pow 2 cost.cost.log2 = cost.cost && cost.blockSize > 0 &&
    cost.parallel > 0 && cost.cost.log2 < 16 * cost.blockSize &&
    cost.blockSize * cost.parallel < Nat.pow 2 30

/-- The key of so many bytes that a password is stretched to. -/
def stretch? (password : Bytes) (length : Nat) : Stretching → Option Bytes
  | .pbkdf2 hash salt iterations => hash.map fun hash =>
      Crypto.pbkdf2 hash password salt iterations length
  | .scrypt salt cost =>
      if isUsable cost then some (Crypto.scrypt password salt cost length) else none

/-- Decrypt a cipher text with a password. -/
def decrypt? (scheme : Scheme) (cipher password : Bytes) : Option Bytes :=
  match scheme with
  | .notOffered => none
  | .aes stretching stated length start =>
      if stated.all fun stated => stated = length then do
        let key ← stretch? password length stretching
        let text ← decryptCbc? key start cipher
        if ((elementOf? text).bind (Element.under? · tagSequence)).isSome then some text else none
      else none

/-- The private key in an armoured block, under a password. -/
def decryptKey (block : Bytes) (password : String) : Except EncryptedKeyFault PrivateKey := do
  let content ← decodeBlock block
  match readEncrypted content with
  | none => .error .values
  | some (scheme, cipher) =>
      match decrypt? scheme cipher (.ofText password) with
      | none => .error .undecryptable
      | some text => .ok ⟨.privateKey, text⟩

end PluggableHost.Tls
