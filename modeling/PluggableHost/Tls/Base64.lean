import PluggableHost.Os.FileTree

namespace PluggableHost.Tls

open PluggableHost.Os

/-!
# Base64

Two readings of the same alphabet. The lenient one skips white space and does
not ask for padding; the strict one takes lines of one width, whole groups of
four, and no bits that the bytes do not use.
-/

/-- The value of a character of the alphabet. -/
def sextet? (byte : UInt8) : Option Nat :=
  let code := byte.toNat
  if 65 ≤ code && code ≤ 90 then some (code - 65)
  else if 97 ≤ code && code ≤ 122 then some (code - 71)
  else if 48 ≤ code && code ≤ 57 then some (code + 4)
  else if code = 43 then some 62
  else if code = 47 then some 63
  else none

/-- The character that fills up the last group. -/
def padding : UInt8 := 61

/-- The byte is a space, a tab or a line break. -/
def isSpace (byte : UInt8) : Bool := byte = 32 || (9 ≤ byte && byte ≤ 13)

/-- Why text could not be read leniently. -/
inductive Base64Fault where
  | invalidCharacter (byte : UInt8)
  /-- Padding stands before the last group. -/
  | prematurePadding
  /-- The last group is too short or padded too much. -/
  | invalidTrailingPadding
  deriving Repr, DecidableEq

/-- The fault in words. -/
def Base64Fault.message : Base64Fault → String
  | invalidCharacter byte => "InvalidCharacter(" ++ toString byte.toNat ++ ")"
  | prematurePadding => "PrematurePadding"
  | invalidTrailingPadding => "InvalidTrailingPadding"

/-- The bytes of values of six bits; bits that fill no byte are dropped. -/
def packed : List Nat → Bytes
  | a :: b :: c :: d :: rest =>
      (a * 4 + b / 16).toUInt8 :: (b * 16 + c / 4).toUInt8 :: (c * 64 + d).toUInt8 :: packed rest
  | [a, b, c] => [(a * 4 + b / 16).toUInt8, (b * 16 + c / 4).toUInt8]
  | [a, b] => [(a * 4 + b / 16).toUInt8]
  | _ => []

/-- A character of the text: a value, or padding. -/
inductive Symbol where
  | value (sextet : Nat)
  | pad
  deriving Repr, DecidableEq

/-- What a byte stands for, if it may stand in base64. -/
def symbol? (byte : UInt8) : Option Symbol :=
  if byte = padding then some .pad else (sextet? byte).map .value

/-- The six bits of a symbol that is no padding. -/
def Symbol.sextet? : Symbol → Option Nat
  | value sextet => some sextet
  | pad => none

/-- The values of the last four symbols or fewer. -/
def lastFour (symbols : List Symbol) : Except Base64Fault (List Nat) :=
  match symbols with
  | [] => .ok []
  | [.value a, .value b, .value c, .value d] => .ok [a, b, c, d]
  | [.value a, .value b, .value c, .pad] => .ok [a, b, c]
  | [.value a, .value b, .value c] => .ok [a, b, c]
  | [.value a, .value b, .pad, .pad] => .ok [a, b]
  | [.value a, .value b] => .ok [a, b]
  | _ => .error .invalidTrailingPadding

/-- The values of the last eight symbols or fewer. -/
def lastEight (symbols : List Symbol) : Except Base64Fault (List Nat) :=
  if symbols.length > 4 then
    if (symbols.take 4).contains .pad then .error .prematurePadding
    else do
      let rest ← lastFour (symbols.drop 4)
      return (symbols.take 4).filterMap Symbol.sextet? ++ rest
  else lastFour symbols

/-- Read text in groups of eight symbols; the group being filled is given. -/
def lenientSextets : List Symbol → Bytes → Except Base64Fault (List Nat)
  | group, [] => lastEight group
  | group, byte :: rest =>
      if isSpace byte then lenientSextets group rest
      else
        match symbol? byte with
        | none => .error (.invalidCharacter byte)
        | some symbol =>
            if group.length = 8 then
              if group.contains .pad then .error .prematurePadding
              else do
                let others ← lenientSextets [symbol] rest
                return group.filterMap Symbol.sextet? ++ others
            else lenientSextets (group ++ [symbol]) rest

/-- Decode base64 that may have line breaks anywhere. -/
def decodeLenient (text : Bytes) : Except Base64Fault Bytes :=
  (lenientSextets [] text).map packed

/-- The number of symbols in a full line of strict armour. -/
def lineWidth : Nat := 64

/-- The lines of strict text, joined. Every line but the last has the full width. -/
def joinedLines : Nat → Bytes → Option Bytes
  | 0, _ => none
  | fuel + 1, text =>
      if text.length ≤ lineWidth then some text
      else do
        let others ←
          match text.drop lineWidth with
          | 13 :: 10 :: rest => joinedLines fuel rest
          | 13 :: rest => joinedLines fuel rest
          | 10 :: rest => joinedLines fuel rest
          | _ => none
        return text.take lineWidth ++ others

/-- The bits that the bytes of a last group do not use are zero. -/
def unusedBitsAreZero (sextets : List Nat) : Bool :=
  match sextets.length % 4 with
  | 2 => sextets.getLastD 0 % 16 = 0
  | 3 => sextets.getLastD 0 % 4 = 0
  | _ => true

/-- Decode base64 in lines of the due width. -/
def decodeStrict? (text : Bytes) : Option Bytes := do
  let joined ← joinedLines (text.length + 1) text
  let pads := (joined.reverse.takeWhile fun byte => byte = padding).length
  if joined.length % 4 ≠ 0 || pads > 2 then none
  else
    let sextets ← (joined.take (joined.length - pads)).mapM sextet?
    if unusedBitsAreZero sextets then some (packed sextets) else none

end PluggableHost.Tls
