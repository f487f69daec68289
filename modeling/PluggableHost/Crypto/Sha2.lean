import PluggableHost.Os.FileTree

namespace PluggableHost.Crypto

open PluggableHost.Os

/-!
# The SHA-2 family of hash functions

All members share one construction over words of 32 or 64 bits. Their constants
are not tables: they are the fractional parts of square and cube roots of the
first primes.
-/

/-- The words of a hash function, and what it does with them. -/
class HashWord (W : Type) where
  bytes : Nat
  ofNat : Nat → W
  /-- Move all bytes one place up and put a byte at the low end. -/
  followedBy : W → UInt8 → W
  /-- The bytes of a word, the most significant first. -/
  toBytes : W → Bytes
  add : W → W → W
  meet : W → W → W
  differ : W → W → W
  invert : W → W
  /-- The three rotations of each of the two functions of a round. -/
  sumLow : W → W
  sumHigh : W → W
  /-- The two functions that stretch a block. -/
  stretchLow : W → W
  stretchHigh : W → W

/-- The word with its bits moved around to the right. -/
@[inline] def rotated32 (word : UInt32) (count : UInt32) : UInt32 :=
  (word >>> count) ||| (word <<< (32 - count))

/-- The word with its bits moved around to the right. -/
@[inline] def rotated64 (word : UInt64) (count : UInt64) : UInt64 :=
  (word >>> count) ||| (word <<< (64 - count))

/-- Words of thirty-two bits, as SHA-224 and SHA-256 use them. -/
instance : HashWord UInt32 where
  bytes := 4
  ofNat := Nat.toUInt32
  followedBy word byte := (word <<< 8) ||| byte.toUInt32
  toBytes word :=
    [(word >>> 24).toUInt8, (word >>> 16).toUInt8, (word >>> 8).toUInt8, word.toUInt8]
  add := (· + ·)
  meet := (· &&& ·)
  differ := (· ^^^ ·)
  invert := (~~~ ·)
  sumLow word := rotated32 word 2 ^^^ rotated32 word 13 ^^^ rotated32 word 22
  sumHigh word := rotated32 word 6 ^^^ rotated32 word 11 ^^^ rotated32 word 25
  stretchLow word := rotated32 word 7 ^^^ rotated32 word 18 ^^^ (word >>> 3)
  stretchHigh word := rotated32 word 17 ^^^ rotated32 word 19 ^^^ (word >>> 10)

/-- Words of sixty-four bits, as SHA-384 and SHA-512 use them. -/
instance : HashWord UInt64 where
  bytes := 8
  ofNat := Nat.toUInt64
  followedBy word byte := (word <<< 8) ||| byte.toUInt64
  toBytes word :=
    [(word >>> 56).toUInt8, (word >>> 48).toUInt8, (word >>> 40).toUInt8, (word >>> 32).toUInt8,
      (word >>> 24).toUInt8, (word >>> 16).toUInt8, (word >>> 8).toUInt8, word.toUInt8]
  add := (· + ·)
  meet := (· &&& ·)
  differ := (· ^^^ ·)
  invert := (~~~ ·)
  sumLow word := rotated64 word 28 ^^^ rotated64 word 34 ^^^ rotated64 word 39
  sumHigh word := rotated64 word 14 ^^^ rotated64 word 18 ^^^ rotated64 word 41
  stretchLow word := rotated64 word 1 ^^^ rotated64 word 8 ^^^ (word >>> 7)
  stretchHigh word := rotated64 word 19 ^^^ rotated64 word 61 ^^^ (word >>> 6)

/-- The largest number whose power does not exceed a value, bit by bit from the top. -/
def integerRoot (power value : Nat) : Nat → Nat → Nat
  | 0, root => root
  | bit + 1, root =>
      let higher := root + Nat.pow 2 bit
      integerRoot power value bit (if Nat.pow higher power ≤ value then higher else root)

/-- The first 64 bits after the point of a root of a number. -/
def rootFraction (power value : Nat) : Nat :=
  integerRoot power (value * Nat.pow 2 (64 * power)) 72 0 % Nat.pow 2 64

/-- The first primes; there are enough of them below the bound for eighty. -/
def firstPrimes (count : Nat) : List Nat :=
  ((List.range 420).filter fun candidate =>
    candidate ≥ 2 && (List.range candidate).all fun divisor =>
      divisor < 2 || candidate % divisor ≠ 0).take count

/-- The 64-bit constants of the rounds; shorter words take the upper half. -/
def roundFractions : List Nat := (firstPrimes 80).map (rootFraction 3)

/-- The constants of the rounds over words of 32 bits. -/
def roundConstants32 : Array UInt32 :=
  ((roundFractions.take 64).map fun fraction => (fraction / Nat.pow 2 32).toUInt32).toArray

/-- The constants of the rounds over words of 64 bits. -/
def roundConstants64 : Array UInt64 := (roundFractions.map Nat.toUInt64).toArray

/-- The word at a place of an array. -/
@[inline] def wordAt {W : Type} [HashWord W] (words : Array W) (index : Nat) : W :=
  words.getD index (HashWord.ofNat 0)

/-- The eight words that are carried from block to block. -/
structure HashState (W : Type) where
  a : W
  b : W
  c : W
  d : W
  e : W
  f : W
  g : W
  h : W

namespace HashState

variable {W : Type} [HashWord W]

omit [HashWord W] in
/-- The words of a state in their order. -/
def toList (state : HashState W) : List W :=
  [state.a, state.b, state.c, state.d, state.e, state.f, state.g, state.h]

/-- The state of eight numbers. -/
def ofList (numbers : List Nat) : HashState W :=
  let word (index : Nat) : W := HashWord.ofNat (numbers.getD index 0)
  ⟨word 0, word 1, word 2, word 3, word 4, word 5, word 6, word 7⟩

/-- The first of two bits where a third is set, and the second where it is not. -/
@[inline] def choice (which left right : W) : W :=
  HashWord.differ (HashWord.meet which left) (HashWord.meet (HashWord.invert which) right)

/-- The bits that most of three words have. -/
@[inline] def majority (left middle right : W) : W :=
  HashWord.differ (HashWord.meet left middle)
    (HashWord.differ (HashWord.meet left right) (HashWord.meet middle right))

/-- So many rounds, the first of them with the constant and the input at an index. -/
@[specialize] def rounds (constants inputs : Array W) :
    Nat → Nat → W → W → W → W → W → W → W → W → HashState W
  | 0, _, a, b, c, d, e, f, g, h => ⟨a, b, c, d, e, f, g, h⟩
  | count + 1, index, a, b, c, d, e, f, g, h =>
      let given := HashWord.add (wordAt constants index) (wordAt inputs index)
      let first := HashWord.add h (HashWord.add (HashWord.sumHigh e)
        (HashWord.add (choice e f g) given))
      let second := HashWord.add (HashWord.sumLow a) (majority a b c)
      rounds constants inputs count (index + 1)
        (HashWord.add first second) a b c (HashWord.add d first) e f g

/-- The sum of two states, word by word. -/
@[specialize] def plus (left right : HashState W) : HashState W :=
  ⟨HashWord.add left.a right.a, HashWord.add left.b right.b, HashWord.add left.c right.c,
    HashWord.add left.d right.d, HashWord.add left.e right.e, HashWord.add left.f right.f,
    HashWord.add left.g right.g, HashWord.add left.h right.h⟩

end HashState

variable {W : Type} [HashWord W]

/-- A block stretched by so many words, the first of them made of the words from an index on. -/
@[specialize] def stretched : Nat → Nat → Array W → Array W
  | 0, _, words => words
  | count + 1, index, words =>
      let low := HashWord.add (HashWord.stretchLow (wordAt words (index + 1))) (wordAt words index)
      let high := HashWord.stretchHigh (wordAt words (index + 14))
      stretched count (index + 1)
        (words.push (HashWord.add high (HashWord.add (wordAt words (index + 9)) low)))

/-- Take one block into a state. -/
@[specialize] def compress (constants : Array W) (state : HashState W) (block : Array W) :
    HashState W :=
  let inputs := stretched (constants.size - 16) 0 block
  state.plus (HashState.rounds constants inputs constants.size 0 state.a state.b state.c state.d
    state.e state.f state.g state.h)

/-- The number that bytes write, the most significant first. -/
def bytesValue (bytes : Bytes) : Nat :=
  bytes.foldl (fun value byte => value * 256 + byte.toNat) 0

/-- So many bytes of a number, the most significant first, in front of others. -/
def bytesBefore (others : Bytes) : Nat → Nat → Bytes
  | 0, _ => others
  | count + 1, value => bytesBefore (value.toUInt8 :: others) count (value / 256)

/-- A number in so many bytes, the most significant first. -/
def bytesOf (count value : Nat) : Bytes := bytesBefore [] count value

/-- Pieces of a given length. -/
def pieces {α : Type} (length : Nat) (values : List α) : Nat → List (List α)
  | 0 => []
  | fuel + 1 =>
      if values.isEmpty then []
      else values.take length :: pieces length (values.drop length) fuel

/-- The message, a one, zeros, and the length in bits, filling whole blocks. -/
def padded (wordBytes : Nat) (message : Bytes) : Bytes :=
  let block := 16 * wordBytes
  let used := (message.length + 1 + 2 * wordBytes) % block
  let zeros := if used = 0 then 0 else block - used
  message ++ 0x80 :: List.replicate zeros 0 ++ bytesOf (2 * wordBytes) (8 * message.length)

/-- The words that bytes write, after one that is begun and lacks so many bytes. -/
@[specialize] def wordsOf (begun : W) (lacking : Nat) : Bytes → List W
  | [] => []
  | byte :: rest =>
      let word := HashWord.followedBy begun byte
      if lacking ≤ 1 then word :: wordsOf (HashWord.ofNat 0) (HashWord.bytes W) rest
      else wordsOf word (lacking - 1) rest

/-- The words that a message is hashed to. -/
@[specialize] def hashWords (constants : Array W) (start : HashState W) (message : Bytes) :
    HashState W :=
  let words : List W :=
    wordsOf (HashWord.ofNat 0) (HashWord.bytes W) (padded (HashWord.bytes W) message)
  (pieces 16 words words.length).foldl (fun state block =>
    compress constants state block.toArray) start

/-- The bytes of a state. -/
def stateBytes (state : HashState W) : Bytes :=
  state.toList.flatMap HashWord.toBytes

/-- A hash function with its sizes. -/
structure HashFunction where
  /-- The number of bytes that are taken in at once. -/
  blockBytes : Nat
  digestBytes : Nat
  digest : Bytes → Bytes

/-- The state that SHA-256 starts from. -/
def sha256Start : HashState UInt32 :=
  .ofList ((firstPrimes 8).map fun prime => rootFraction 2 prime / Nat.pow 2 32)

/-- The state that SHA-224 starts from. -/
def sha224Start : HashState UInt32 :=
  .ofList (((firstPrimes 16).drop 8).map fun prime => rootFraction 2 prime % Nat.pow 2 32)

/-- The state that SHA-512 starts from. -/
def sha512Start : HashState UInt64 := .ofList ((firstPrimes 8).map (rootFraction 2))

/-- The state that SHA-384 starts from. -/
def sha384Start : HashState UInt64 := .ofList (((firstPrimes 16).drop 8).map (rootFraction 2))

/-- The hash function of words of thirty-two bits from a start. -/
def hash32 (start : HashState UInt32) (digestBytes : Nat) : HashFunction :=
  { blockBytes := 64, digestBytes
    digest := fun message =>
      (stateBytes (hashWords roundConstants32 start message)).take digestBytes }

/-- The hash function of words of sixty-four bits from a start. -/
def hash64 (start : HashState UInt64) (digestBytes : Nat) : HashFunction :=
  { blockBytes := 128, digestBytes
    digest := fun message =>
      (stateBytes (hashWords roundConstants64 start message)).take digestBytes }

/-- SHA-224. -/
def sha224 : HashFunction := hash32 sha224Start 28

/-- SHA-256. -/
def sha256 : HashFunction := hash32 sha256Start 32

/-- SHA-384. -/
def sha384 : HashFunction := hash64 sha384Start 48

/-- SHA-512. -/
def sha512 : HashFunction := hash64 sha512Start 64

end PluggableHost.Crypto
