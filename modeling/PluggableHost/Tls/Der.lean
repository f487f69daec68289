import PluggableHost.Crypto.Sha2

namespace PluggableHost.Tls

open PluggableHost.Os PluggableHost.Crypto

/-!
# Tagged values

Certificates and keys are trees of tagged values, written in one way only: a
tag of one byte, a length in the fewest bytes, and the content.
-/

/-- A tagged value. -/
structure Element where
  tag : UInt8
  content : Bytes
  /-- All its bytes, tag and length included. -/
  whole : Bytes
  deriving Repr, DecidableEq

/-- A length and the bytes after it. -/
def readLength : Bytes → Option (Nat × Bytes)
  | [] => none
  | first :: rest =>
      if first < 0x80 then some (first.toNat, rest)
      else
        let count := first.toNat - 0x80
        let digits := rest.take count
        let value := bytesValue digits
        if 1 ≤ count && count ≤ 4 && digits.length = count && digits.head? ≠ some 0 &&
            value ≥ 128 then
          some (value, rest.drop count)
        else none

/-- A value and the bytes after it. -/
def readElement (bytes : Bytes) : Option (Element × Bytes) :=
  match bytes with
  | [] => none
  | tag :: rest =>
      if tag &&& 0x1f = 0x1f then none
      else do
        let (length, body) ← readLength rest
        if body.length < length then none
        else
          let after := body.drop length
          some (⟨tag, body.take length, bytes.take (bytes.length - after.length)⟩, after)

/-- The values that fill bytes, as many as the fuel allows. -/
def readElements : Nat → Bytes → Option (List Element)
  | 0, bytes => if bytes.isEmpty then some [] else none
  | fuel + 1, bytes =>
      if bytes.isEmpty then some []
      else do
        let (first, rest) ← readElement bytes
        let others ← readElements fuel rest
        return first :: others

/-- The values in a content. -/
def elementsOf? (content : Bytes) : Option (List Element) := readElements content.length content

/-- The one value that bytes are. -/
def elementOf? (bytes : Bytes) : Option Element :=
  match readElement bytes with
  | some (element, []) => some element
  | _ => none

/-- The tags that are used. -/
def tagBoolean : UInt8 := 0x01

/-- The tag of a whole number. -/
def tagInteger : UInt8 := 0x02

/-- The tag of a string of bits. -/
def tagBitString : UInt8 := 0x03

/-- The tag of a string of bytes. -/
def tagOctetString : UInt8 := 0x04

/-- The tag of the empty value. -/
def tagNull : UInt8 := 0x05

/-- The tag of an object's name. -/
def tagName : UInt8 := 0x06

/-- The tag of a sequence. -/
def tagSequence : UInt8 := 0x30

/-- The tag of the marked field of a number. -/
def tagField (number : UInt8) : UInt8 := 0xa0 ||| number

/-- The content of a value, if it has the tag. -/
def Element.under? (element : Element) (tag : UInt8) : Option Bytes :=
  if element.tag = tag then some element.content else none

/-- The values in a sequence. -/
def Element.children? (element : Element) : Option (List Element) :=
  (element.under? tagSequence).bind elementsOf?

/-- A number that is not negative and has no more bytes than needed. -/
def Element.natural? (element : Element) : Option Nat := do
  let content ← element.under? tagInteger
  match content with
  | [] => none
  | [byte] => if byte < 0x80 then some byte.toNat else none
  | first :: second :: _ =>
      if first ≥ 0x80 || (first = 0 && second < 0x80) then none else some (bytesValue content)

/-- The bytes of a string of bits that fills them. -/
def Element.bits? (element : Element) : Option Bytes := do
  match ← element.under? tagBitString with
  | 0 :: bits => some bits
  | _ => none

/-- The length of a content in the fewest bytes. -/
def lengthBytes (length : Nat) : Bytes :=
  if length < 128 then [length.toUInt8]
  else
    let count := (length.log2 + 8) / 8
    (0x80 + count).toUInt8 :: bytesOf count length

/-- An element with a tag and a content. -/
def elementBytes (tag : UInt8) (content : Bytes) : Bytes :=
  tag :: lengthBytes content.length ++ content

/-- A number that is not negative, as bytes. -/
def naturalBytes (value : Nat) : Bytes :=
  elementBytes tagInteger (bytesOf (value.log2 / 8 + 1 + if value.log2 % 8 = 7 then 1 else 0) value)

end PluggableHost.Tls
