import PluggableHost.Crypto.Stretching

namespace PluggableHost.Crypto

open PluggableHost.Os

/-!
# Decryption with AES in chained blocks

Bytes are elements of the field with 256 elements. The substitution is the
inverse in that field followed by an affine map, so no table is given, only
computed. Blocks are chained, and the padding tells how many bytes it has.
-/

/-- Multiply by the generator of the field. -/
def doubled (byte : UInt8) : UInt8 :=
  (byte <<< 1) ^^^ (if byte ≥ 0x80 then 0x1b else 0)

/-- The product of two elements of the field, bit by bit. -/
def fieldProduct (left right : UInt8) : UInt8 :=
  ((List.range 8).foldl (fun (sum, power) bit =>
    (if (right >>> bit.toUInt8) &&& 1 = 1 then sum ^^^ power else sum, doubled power))
    ((0 : UInt8), left)).1

/-- The inverse of an element, which is its power to the 254th; zero stays zero. -/
def fieldInverse (byte : UInt8) : UInt8 :=
  (List.range 253).foldl (fun power _ => fieldProduct power byte) byte

/-- The byte with its bits moved around to the left. -/
def rotatedByte (byte count : UInt8) : UInt8 :=
  (byte <<< count) ||| (byte >>> (8 - count))

/-- The byte that the substitution box gives for another. -/
def substitute (byte : UInt8) : UInt8 :=
  let inverse := fieldInverse byte
  inverse ^^^ rotatedByte inverse 1 ^^^ rotatedByte inverse 2 ^^^ rotatedByte inverse 3 ^^^
    rotatedByte inverse 4 ^^^ 0x63

/-- The whole substitution box. -/
def substitutes : Array UInt8 :=
  ((List.range 256).map fun index => substitute index.toUInt8).toArray

/-- The byte of every substitute. -/
def originals : Array UInt8 :=
  (List.range 256).foldl (fun table index =>
    table.setIfInBounds (substitutes.getD index 0).toNat index.toUInt8) (Array.replicate 256 0)

/--
One more word of an expanded key, from where it stands, the word before it, and
the word that stands one key earlier.
-/
def nextKeyWord (keyWords index : Nat) (last early : Bytes) : Bytes :=
  let replaced (word : Bytes) : Bytes := word.map fun byte => substitutes.getD byte.toNat 0
  let changed :=
    if index % keyWords = 0 then
      let turned := replaced (last.drop 1 ++ last.take 1)
      let constant := (List.range (index / keyWords - 1)).foldl (fun power _ => doubled power) 1
      exclusiveOr turned [constant, 0, 0, 0]
    else if keyWords > 6 && index % keyWords = 4 then replaced last
    else last
  exclusiveOr early changed

/-- The words of a key, expanded to four for every round and four more. -/
def expandedKey (key : Bytes) : Array Bytes :=
  let keyWords := key.length / 4
  (List.range (4 * (keyWords + 7) - keyWords)).foldl (fun words offset =>
    let index := offset + keyWords
    words.push (nextKeyWord keyWords index (words.getD (index - 1) [])
      (words.getD offset []))) (pieces 4 key keyWords).toArray

/-- The sixteen bytes of one round's key. -/
def roundKey (words : Array Bytes) (round : Nat) : Bytes :=
  (List.range 4).flatMap fun index => words.getD (4 * round + index) []

/-- Undo the shifting of the rows; bytes are kept column by column. -/
def unshifted (block : Bytes) : Bytes :=
  (List.range 16).map fun index =>
    block.getD (4 * ((index / 4 + 4 - index % 4) % 4) + index % 4) 0

/-- Undo the mixing of one column. -/
def unmixedColumn (column : Bytes) : Bytes :=
  let factors : Bytes := [14, 11, 13, 9]
  (List.range 4).map fun row =>
    (List.range 4).foldl (fun sum index =>
      sum ^^^ fieldProduct (factors.getD ((index + 4 - row) % 4) 0) (column.getD index 0)) 0

/-- Undo the mixing of all columns. -/
def unmixed (block : Bytes) : Bytes := (pieces 4 block 4).flatMap unmixedColumn

/-- Undo one round, up to the mixing of the columns. -/
def undoRound (words : Array Bytes) (round : Nat) (block : Bytes) : Bytes :=
  exclusiveOr ((unshifted block).map fun byte => originals.getD byte.toNat 0) (roundKey words round)

/-- Decrypt one block with the words of the expanded key. -/
def decryptBlock (words : Array Bytes) (block : Bytes) : Bytes :=
  let rounds := words.size / 4 - 1
  let start := exclusiveOr block (roundKey words rounds)
  let middle := (List.range (rounds - 1)).foldl (fun block index =>
    unmixed (undoRound words (rounds - 1 - index) block)) start
  undoRound words 0 middle

/-- Decrypt chained blocks, each with the block before it. -/
def decryptChain (words : Array Bytes) : Bytes → List Bytes → Bytes
  | _, [] => []
  | last, block :: rest =>
      exclusiveOr (decryptBlock words block) last ++ decryptChain words block rest

/-- The text without its padding, if the padding is right. -/
def unpadded? (text : Bytes) : Option Bytes :=
  let count := (text.getLastD 0).toNat
  let kept := text.take (text.length - count)
  if 1 ≤ count && count ≤ 16 && count ≤ text.length &&
      (text.drop kept.length).all fun byte => byte.toNat = count then some kept
  else none

/-- Decrypt a text of whole blocks with a key of 16, 24 or 32 bytes. -/
def decryptCbc? (key start cipher : Bytes) : Option Bytes :=
  if cipher.isEmpty || cipher.length % 16 ≠ 0 then none
  else unpadded? (decryptChain (expandedKey key) start (pieces 16 cipher cipher.length))

end PluggableHost.Crypto
