import PluggableHost.Crypto.Sha2

namespace PluggableHost.Crypto

open PluggableHost.Os

/-!
# Keys from passwords

A password is stretched into a key by hashing it again and again with a salt:
by PBKDF2, whose cost is time, or by scrypt, whose cost is memory as well.
-/

/-- The exclusive or of two byte strings, as long as the shorter one. -/
def exclusiveOr (left right : Bytes) : Bytes := left.zipWith (· ^^^ ·) right

/-- A key that codes are made with: what is hashed before a message, and before its digest. -/
structure CodeKey where
  inner : Bytes
  outer : Bytes

/-- The key of a password, which is hashed first if it is longer than a block. -/
def CodeKey.ofPassword (hash : HashFunction) (password : Bytes) : CodeKey :=
  let short := if password.length > hash.blockBytes then hash.digest password else password
  let block := short ++ List.replicate (hash.blockBytes - short.length) 0
  { inner := block.map (· ^^^ 0x36), outer := block.map (· ^^^ 0x5c) }

/-- The code that authenticates a message under a key. -/
def hmac (hash : HashFunction) (key : CodeKey) (message : Bytes) : Bytes :=
  hash.digest (key.outer ++ hash.digest (key.inner ++ message))

/-- Feed the last code back so many times, and add all codes up. -/
def chained (hash : HashFunction) (key : CodeKey) : Nat → Bytes → Bytes → Bytes
  | 0, _, sum => sum
  | count + 1, last, sum =>
      let next := hmac hash key last
      chained hash key count next (exclusiveOr sum next)

/-- One block of a stretched password; blocks are counted from one. -/
def pbkdf2Block (hash : HashFunction) (password salt : Bytes) (iterations index : Nat) : Bytes :=
  let key := CodeKey.ofPassword hash password
  let first := hmac hash key (salt ++ bytesOf 4 index)
  chained hash key (iterations - 1) first first

/-- A password stretched to so many bytes by PBKDF2. -/
def pbkdf2 (hash : HashFunction) (password salt : Bytes) (iterations length : Nat) : Bytes :=
  let blocks := (length + hash.digestBytes - 1) / hash.digestBytes
  ((List.range blocks).flatMap fun index =>
    pbkdf2Block hash password salt iterations (index + 1)).take length

/-- The four places that a quarter of a round works on. -/
structure Quarter where
  a : Nat
  b : Nat
  c : Nat
  d : Nat

/-- The word with its bits moved around to the left. -/
@[inline] def rotatedLeft (word count : UInt32) : UInt32 :=
  (word <<< count) ||| (word >>> (32 - count))

/-- Add a rotated sum of two words to a third. -/
@[inline] def mixInto (words : Array UInt32) (target first second : Nat) (count : UInt32) :
    Array UInt32 :=
  let sum := words.getD first 0 + words.getD second 0
  words.setIfInBounds target (words.getD target 0 ^^^ rotatedLeft sum count)

/-- Mix four words in place. -/
def quarterRound (words : Array UInt32) (quarter : Quarter) : Array UInt32 :=
  let words := mixInto words quarter.b quarter.a quarter.d 7
  let words := mixInto words quarter.c quarter.b quarter.a 9
  let words := mixInto words quarter.d quarter.c quarter.b 13
  mixInto words quarter.a quarter.d quarter.c 18

/-- The quarters of two rounds: columns, then rows. -/
def quarters : List Quarter :=
  [⟨0, 4, 8, 12⟩, ⟨5, 9, 13, 1⟩, ⟨10, 14, 2, 6⟩, ⟨15, 3, 7, 11⟩,
    ⟨0, 1, 2, 3⟩, ⟨5, 6, 7, 4⟩, ⟨10, 11, 8, 9⟩, ⟨15, 12, 13, 14⟩]

/-- The sum of two blocks of words, word by word. -/
def addWords (left right : Array UInt32) : Array UInt32 := left.zipWith (· + ·) right

/-- Words added one by one without carry. -/
def differWords (left right : Array UInt32) : Array UInt32 := left.zipWith (· ^^^ ·) right

/-- Salsa20 with eight rounds. -/
def salsa (words : Array UInt32) : Array UInt32 :=
  let double (words : Array UInt32) : Array UInt32 := quarters.foldl quarterRound words
  addWords words (double (double (double (double words))))

/-- Mix a list of blocks of sixteen words: those at even places first, then those at odd ones. -/
def blockMix (blocks : List (Array UInt32)) : List (Array UInt32) :=
  let (mixed, _) := blocks.foldl (fun (done, last) block =>
    let next := salsa (differWords last block)
    (next :: done, next)) (([] : List (Array UInt32)), blocks.getLastD #[])
  let ordered := mixed.reverse.zipIdx
  let placed (parity : Nat) := (ordered.filter fun entry => entry.2 % 2 = parity).map Prod.fst
  placed 0 ++ placed 1

/-- A number that the last block picks. -/
def picked (blocks : List (Array UInt32)) (bound : Nat) : Nat :=
  let last := blocks.getLastD #[]
  ((last.getD 0 0).toNat + Nat.pow 2 32 * (last.getD 1 0).toNat) % bound

/-- Fill a table of so many mixed states, then mix once more with states picked from it. -/
def memoryMix (cost : Nat) (blocks : List (Array UInt32)) : List (Array UInt32) :=
  let (table, state) := (List.range cost).foldl (fun (table, state) _ =>
    (table.push state, blockMix state)) ((#[] : Array (List (Array UInt32))), blocks)
  (List.range cost).foldl (fun state _ =>
    blockMix (state.zipWith differWords (table.getD (picked state cost) []))) state

/-- The words of bytes, the least significant byte first. -/
def littleWords (bytes : Bytes) : Array UInt32 :=
  ((pieces 4 bytes bytes.length).map fun piece => (bytesValue piece.reverse).toUInt32).toArray

/-- The bytes of words, the least significant byte first. -/
def littleBytes (words : Array UInt32) : Bytes :=
  words.toList.flatMap fun word => (bytesOf 4 word.toNat).reverse

/-- What scrypt costs: how often, how large and how many at once. -/
structure ScryptCost where
  cost : Nat
  blockSize : Nat
  parallel : Nat
  deriving Repr, DecidableEq

/-- A password stretched to so many bytes by scrypt. -/
def scrypt (password salt : Bytes) (cost : ScryptCost) (length : Nat) : Bytes :=
  let lane := 128 * cost.blockSize
  let start := pbkdf2 sha256 password salt 1 (lane * cost.parallel)
  let mixed := (pieces lane start cost.parallel).flatMap fun bytes =>
    (memoryMix cost.cost ((pieces 64 bytes bytes.length).map littleWords)).flatMap littleBytes
  pbkdf2 sha256 password mixed 1 length

end PluggableHost.Crypto
