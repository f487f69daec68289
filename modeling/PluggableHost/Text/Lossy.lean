import PluggableHost.Os.FileTree

namespace PluggableHost.Text

open PluggableHost.Os

/-!
# Bytes shown as text

Foreign bytes are shown in messages as the text they encode in UTF-8. Where
they encode none, one replacement character stands for as many bytes as could
have begun a character.
-/

/-- The least and the greatest second byte of a character, and how many bytes follow the first. -/
structure LeadByte where
  low : UInt8
  high : UInt8
  following : Nat

/-- What may follow a first byte that is no ASCII character. -/
def leadByte? (byte : UInt8) : Option LeadByte :=
  if 0xc2 ≤ byte && byte ≤ 0xdf then some ⟨0x80, 0xbf, 1⟩
  else if byte = 0xe0 then some ⟨0xa0, 0xbf, 2⟩
  else if byte = 0xed then some ⟨0x80, 0x9f, 2⟩
  else if 0xe1 ≤ byte && byte ≤ 0xef then some ⟨0x80, 0xbf, 2⟩
  else if byte = 0xf0 then some ⟨0x90, 0xbf, 3⟩
  else if 0xf1 ≤ byte && byte ≤ 0xf3 then some ⟨0x80, 0xbf, 3⟩
  else if byte = 0xf4 then some ⟨0x80, 0x8f, 3⟩
  else none

/-- The bytes at the front that continue a character. -/
def continuation (lead : LeadByte) (rest : Bytes) : Bytes :=
  match rest with
  | [] => []
  | second :: others =>
      if lead.low ≤ second && second ≤ lead.high then
        second :: (others.take (lead.following - 1)).takeWhile fun byte =>
          0x80 ≤ byte && byte ≤ 0xbf
      else []

/-- The code point of a first byte and the bytes that continue it. -/
def codePoint (first : UInt8) (following : Bytes) : Nat :=
  following.foldl (fun code byte => code * 64 + byte.toNat % 64)
    (first.toNat % Nat.pow 2 (6 - following.length))

/-- The character that stands for bytes that are no text. -/
def replacement : Char := '\ufffd'

/-- The characters that bytes encode, as many as the fuel allows. -/
def lossyChars : Nat → Bytes → List Char
  | 0, _ => []
  | _, [] => []
  | fuel + 1, first :: rest =>
      if first < 0x80 then Char.ofNat first.toNat :: lossyChars fuel rest
      else
        match leadByte? first with
        | none => replacement :: lossyChars fuel rest
        | some lead =>
            let following := continuation lead rest
            let character :=
              if following.length = lead.following then Char.ofNat (codePoint first following)
              else replacement
            character :: lossyChars fuel (rest.drop following.length)

/-- The text that bytes show. -/
def lossy (bytes : Bytes) : String := String.ofList (lossyChars bytes.length bytes)

end PluggableHost.Text
