/-!
# SHA-256

The digest of a row of bytes, on words of 32 bits.  The message is padded to blocks of 64 bytes, and
every block is mixed into eight words in 64 rounds.
-/

namespace ViewTemplate.Sha256

/-- The eight words that blocks are mixed into. -/
structure Words where
  a : UInt32
  b : UInt32
  c : UInt32
  d : UInt32
  e : UInt32
  f : UInt32
  g : UInt32
  h : UInt32
  deriving Repr, DecidableEq

/-- The words before the first block. -/
def Words.start : Words :=
  ⟨0x6a09e667, 0xbb67ae85, 0x3c6ef372, 0xa54ff53a, 0x510e527f, 0x9b05688c, 0x1f83d9ab, 0x5be0cd19⟩

/-- Add two rows of words, word by word. -/
def Words.add (x y : Words) : Words :=
  ⟨x.a + y.a, x.b + y.b, x.c + y.c, x.d + y.d, x.e + y.e, x.f + y.f, x.g + y.g, x.h + y.h⟩

def Words.toList (x : Words) : List UInt32 :=
  [x.a, x.b, x.c, x.d, x.e, x.f, x.g, x.h]

/-- The constant of each round. -/
def roundConstants : List UInt32 :=
  [0x428a2f98, 0x71374491, 0xb5c0fbcf, 0xe9b5dba5, 0x3956c25b, 0x59f111f1, 0x923f82a4, 0xab1c5ed5,
    0xd807aa98, 0x12835b01, 0x243185be, 0x550c7dc3, 0x72be5d74, 0x80deb1fe, 0x9bdc06a7, 0xc19bf174,
    0xe49b69c1, 0xefbe4786, 0x0fc19dc6, 0x240ca1cc, 0x2de92c6f, 0x4a7484aa, 0x5cb0a9dc, 0x76f988da,
    0x983e5152, 0xa831c66d, 0xb00327c8, 0xbf597fc7, 0xc6e00bf3, 0xd5a79147, 0x06ca6351, 0x14292967,
    0x27b70a85, 0x2e1b2138, 0x4d2c6dfc, 0x53380d13, 0x650a7354, 0x766a0abb, 0x81c2c92e, 0x92722c85,
    0xa2bfe8a1, 0xa81a664b, 0xc24b8b70, 0xc76c51a3, 0xd192e819, 0xd6990624, 0xf40e3585, 0x106aa070,
    0x19a4c116, 0x1e376c08, 0x2748774c, 0x34b0bcb5, 0x391c0cb3, 0x4ed8aa4a, 0x5b9cca4f, 0x682e6ff3,
    0x748f82ee, 0x78a5636f, 0x84c87814, 0x8cc70208, 0x90befffa, 0xa4506ceb, 0xbef9a3f7, 0xc67178f2]

/-- Rotate a word to the right. -/
def rotate (x : UInt32) (n : UInt32) : UInt32 :=
  (x >>> n) ||| (x <<< (32 - n))

/-- The next word of the schedule, from the words before it, the last one first. -/
def nextWord (words : List UInt32) : UInt32 :=
  let word (i : Nat) := words[i]?.getD 0
  let x := word 14
  let y := word 1
  word 15 + (rotate x 7 ^^^ rotate x 18 ^^^ (x >>> 3)) + word 6 +
    (rotate y 17 ^^^ rotate y 19 ^^^ (y >>> 10))

/-- The schedule of a block of sixteen words: 64 words, the later ones computed. -/
def schedule (block : List UInt32) : List UInt32 :=
  (Nat.repeat (fun words => nextWord words :: words) 48 block.reverse).reverse

/-- One round, with the sum of its constant and its word of the schedule. -/
def round (x : Words) (k : UInt32) : Words :=
  let high := rotate x.e 6 ^^^ rotate x.e 11 ^^^ rotate x.e 25
  let choice := (x.e &&& x.f) ^^^ ((~~~x.e) &&& x.g)
  let first := x.h + high + choice + k
  let low := rotate x.a 2 ^^^ rotate x.a 13 ^^^ rotate x.a 22
  let majority := (x.a &&& x.b) ^^^ (x.a &&& x.c) ^^^ (x.b &&& x.c)
  ⟨first + (low + majority), x.a, x.b, x.c, x.d + first, x.e, x.f, x.g⟩

/-- Mix a block of sixteen words into the words. -/
def mix (x : Words) (block : List UInt32) : Words :=
  x.add ((List.zipWith (· + ·) roundConstants (schedule block)).foldl round x)

/-- A number as bytes, the highest first. -/
def bigEndian (count : Nat) (n : Nat) : List UInt8 :=
  (List.range count).map fun i => UInt8.ofNat (n >>> (8 * (count - 1 - i)))

/-- A message with its padding: a one bit, zeros, and its length in bits. -/
def pad (message : List UInt8) : List UInt8 :=
  let zeros := (119 - message.length % 64) % 64
  message ++ 0x80 :: (List.replicate zeros 0 ++ bigEndian 8 (8 * message.length))

/-- Bytes as words, four bytes each. -/
def wordsOf : List UInt8 → List UInt32
  | a :: b :: c :: d :: rest =>
    ((a.toUInt32 <<< 24) ||| (b.toUInt32 <<< 16) ||| (c.toUInt32 <<< 8) ||| d.toUInt32) ::
      wordsOf rest
  | _ => []

/-- Mix all words of a padded message, sixteen at a time.  `block` holds the words of the block at
hand, the last one first. -/
def mixAll (x : Words) (block : List UInt32) : List UInt32 → Words
  | [] => x
  | w :: rest =>
    if block.length = 15 then mixAll (mix x (w :: block).reverse) [] rest
    else mixAll x (w :: block) rest

/-- The digest of a row of bytes. -/
def digest (message : List UInt8) : List UInt8 :=
  (mixAll Words.start [] (wordsOf (pad message))).toList.flatMap fun w => bigEndian 4 w.toNat

end ViewTemplate.Sha256
