import SpotSettlement.Power

namespace SpotSettlement

/-! # SHA-256

The digest of a row of bytes: it is padded to whole blocks of 64 bytes, and each block is mixed into
a state of eight words of 32 bits, which at the end is the digest.
-/

namespace Sha256

def roundConstants : List UInt32 := [
  0x428a2f98, 0x71374491, 0xb5c0fbcf, 0xe9b5dba5, 0x3956c25b, 0x59f111f1, 0x923f82a4, 0xab1c5ed5,
  0xd807aa98, 0x12835b01, 0x243185be, 0x550c7dc3, 0x72be5d74, 0x80deb1fe, 0x9bdc06a7, 0xc19bf174,
  0xe49b69c1, 0xefbe4786, 0x0fc19dc6, 0x240ca1cc, 0x2de92c6f, 0x4a7484aa, 0x5cb0a9dc, 0x76f988da,
  0x983e5152, 0xa831c66d, 0xb00327c8, 0xbf597fc7, 0xc6e00bf3, 0xd5a79147, 0x06ca6351, 0x14292967,
  0x27b70a85, 0x2e1b2138, 0x4d2c6dfc, 0x53380d13, 0x650a7354, 0x766a0abb, 0x81c2c92e, 0x92722c85,
  0xa2bfe8a1, 0xa81a664b, 0xc24b8b70, 0xc76c51a3, 0xd192e819, 0xd6990624, 0xf40e3585, 0x106aa070,
  0x19a4c116, 0x1e376c08, 0x2748774c, 0x34b0bcb5, 0x391c0cb3, 0x4ed8aa4a, 0x5b9cca4f, 0x682e6ff3,
  0x748f82ee, 0x78a5636f, 0x84c87814, 0x8cc70208, 0x90befffa, 0xa4506ceb, 0xbef9a3f7, 0xc67178f2]

structure State where
  a : UInt32
  b : UInt32
  c : UInt32
  d : UInt32
  e : UInt32
  f : UInt32
  g : UInt32
  h : UInt32
  deriving DecidableEq, Repr, Inhabited

def State.initial : State := ⟨0x6a09e667, 0xbb67ae85, 0x3c6ef372, 0xa54ff53a, 0x510e527f,
  0x9b05688c, 0x1f83d9ab, 0x5be0cd19⟩

/-- The words of two states added one by one. -/
def State.add (s t : State) : State := ⟨s.a + t.a, s.b + t.b, s.c + t.c, s.d + t.d, s.e + t.e,
  s.f + t.f, s.g + t.g, s.h + t.h⟩

def rotateRight (word count : UInt32) : UInt32 :=
  (word >>> count) ||| (word <<< (32 - count))

/-- Mixes one word of the schedule into the state. -/
def round (s : State) (constant word : UInt32) : State :=
  let mixed := rotateRight s.e 6 ^^^ rotateRight s.e 11 ^^^ rotateRight s.e 25
  let choice := (s.e &&& s.f) ^^^ ((~~~ s.e) &&& s.g)
  let first := s.h + mixed + choice + constant + word
  let turned := rotateRight s.a 2 ^^^ rotateRight s.a 13 ^^^ rotateRight s.a 22
  let majority := (s.a &&& s.b) ^^^ (s.a &&& s.c) ^^^ (s.b &&& s.c)
  ⟨first + (turned + majority), s.a, s.b, s.c, s.d + first, s.e, s.f, s.g⟩

/-- The word of the schedule after those before it, given last first. -/
def nextWord (before : List UInt32) : UInt32 :=
  let far := before.getD 14 0
  let near := before.getD 1 0
  let farMixed := rotateRight far 7 ^^^ rotateRight far 18 ^^^ (far >>> 3)
  let nearMixed := rotateRight near 17 ^^^ rotateRight near 19 ^^^ (near >>> 10)
  before.getD 15 0 + farMixed + before.getD 6 0 + nearMixed

/-- Adds so many words to the schedule, which is held last word first. -/
def extend : Nat → List UInt32 → List UInt32
  | 0, before => before
  | count + 1, before => extend count (nextWord before :: before)

/-- The schedule of a block of sixteen words: those words, and forty-eight more. -/
def schedule (block : List UInt32) : List UInt32 := (extend 48 block.reverse).reverse

/-- Mixes a block of sixteen words into the state. -/
def compress (s : State) (block : List UInt32) : State :=
  s.add ((roundConstants.zip (schedule block)).foldl
    (fun s (constant, word) => round s constant word) s)

/-- Mixes so many blocks into the state. -/
def absorb : Nat → State → List UInt32 → State
  | 0, s, _ => s
  | count + 1, s, words => absorb count (compress s (words.take 16)) (words.drop 16)

/-- So many bytes of a number, the most significant first. -/
def bigEndian : Nat → Nat → List UInt8
  | 0, _ => []
  | count + 1, value => UInt8.ofNat (value / 256 ^ count) :: bigEndian count value

/-- The bytes as words of four bytes, the most significant first. -/
def words : List UInt8 → List UInt32
  | a :: b :: c :: d :: rest =>
    UInt32.ofNat (((a.toNat * 256 + b.toNat) * 256 + c.toNat) * 256 + d.toNat) :: words rest
  | _ => []

/-- The zeros between the mark after a message and its length. -/
def paddingZeros (size : Nat) : Nat := (119 - size % 64) % 64

/-- A message padded to whole blocks: a mark, zeros, and the length in bits. -/
def pad (message : List UInt8) : List UInt8 :=
  message ++ 0x80 :: List.replicate (paddingZeros message.length) 0 ++
    bigEndian 8 (message.length * 8)

def State.bytes (s : State) : List UInt8 :=
  [s.a, s.b, s.c, s.d, s.e, s.f, s.g, s.h].flatMap fun word => bigEndian 4 word.toNat

def hash (message : List UInt8) : List UInt8 :=
  let padded := words (pad message)
  (absorb (padded.length / 16) .initial padded).bytes

end Sha256

namespace Hmac

def blockSize : Nat := 64

/-- A key of at most one block: a longer key is replaced by its digest. -/
def shortKey (key : List UInt8) : List UInt8 :=
  if blockSize < key.length then Sha256.hash key else key

/-- A key as one block, filled up with zeros. -/
def blockKey (key : List UInt8) : List UInt8 :=
  shortKey key ++ List.replicate (blockSize - (shortKey key).length) 0

/-- The digest of a message under a key, which is its HMAC over SHA-256. -/
def sha256 (key message : List UInt8) : List UInt8 :=
  let block := blockKey key
  let inner := Sha256.hash (block.map (· ^^^ 0x36) ++ message)
  Sha256.hash (block.map (· ^^^ 0x5c) ++ inner)

end Hmac

end SpotSettlement
