import Relmap.Text.Hex

/-
  The SHA-256 digest of a text, as hexadecimal digits.

  Key definitions include:
    * `Digest.pad`
    * `Digest.schedule`
    * `Digest.compress`
    * `Digest.sha256`
    * `Digest.sha256Hex`
-/

------------------------------------------------------------
-- Constants
------------------------------------------------------------

namespace Relmap

namespace Digest

/- The eight words of the running hash. -/
structure State where
  a : UInt32
  b : UInt32
  c : UInt32
  d : UInt32
  e : UInt32
  f : UInt32
  g : UInt32
  h : UInt32
  deriving DecidableEq

/-
  The hash before the first block: leading fraction bits of
  the square roots of the first eight primes.
-/
def initial : State :=
  ⟨0x6a09e667, 0xbb67ae85, 0x3c6ef372, 0xa54ff53a,
    0x510e527f, 0x9b05688c, 0x1f83d9ab, 0x5be0cd19⟩

/-
  One constant per round: leading fraction bits of the cube
  roots of the first sixty-four primes.
-/
def roundConstants : List UInt32 := [
    0x428a2f98, 0x71374491, 0xb5c0fbcf, 0xe9b5dba5,
    0x3956c25b, 0x59f111f1, 0x923f82a4, 0xab1c5ed5,
    0xd807aa98, 0x12835b01, 0x243185be, 0x550c7dc3,
    0x72be5d74, 0x80deb1fe, 0x9bdc06a7, 0xc19bf174,
    0xe49b69c1, 0xefbe4786, 0x0fc19dc6, 0x240ca1cc,
    0x2de92c6f, 0x4a7484aa, 0x5cb0a9dc, 0x76f988da,
    0x983e5152, 0xa831c66d, 0xb00327c8, 0xbf597fc7,
    0xc6e00bf3, 0xd5a79147, 0x06ca6351, 0x14292967,
    0x27b70a85, 0x2e1b2138, 0x4d2c6dfc, 0x53380d13,
    0x650a7354, 0x766a0abb, 0x81c2c92e, 0x92722c85,
    0xa2bfe8a1, 0xa81a664b, 0xc24b8b70, 0xc76c51a3,
    0xd192e819, 0xd6990624, 0xf40e3585, 0x106aa070,
    0x19a4c116, 0x1e376c08, 0x2748774c, 0x34b0bcb5,
    0x391c0cb3, 0x4ed8aa4a, 0x5b9cca4f, 0x682e6ff3,
    0x748f82ee, 0x78a5636f, 0x84c87814, 0x8cc70208,
    0x90befffa, 0xa4506ceb, 0xbef9a3f7, 0xc67178f2]

end Digest

end Relmap

------------------------------------------------------------
-- Padding And Words
------------------------------------------------------------

namespace Relmap

namespace Digest

/- A number as `count` bytes, the most significant first. -/
def bigEndian
    (count : Nat)
    (n : Nat) : List UInt8 :=
  (List.range count).map fun index =>
    UInt8.ofNat (n >>> (8 * (count - 1 - index)))

/-
  The message, a one bit, zeros up to the last eight bytes
  of a block of sixty-four, and the message length in bits.
-/
def pad (message : List UInt8) : List UInt8 :=
  let zeros := (119 - message.length % 64) % 64
  message ++ 0x80 :: List.replicate zeros 0 ++
    bigEndian 8 (8 * message.length)

/- Big-endian words of four bytes each. -/
def words : List UInt8 → List UInt32
  | w :: x :: y :: z :: rest =>
      (w.toUInt32 <<< 24 ||| x.toUInt32 <<< 16 |||
        y.toUInt32 <<< 8 ||| z.toUInt32) :: words rest
  | _ => []

/- The bytes of a word, the most significant first. -/
def wordBytes (w : UInt32) : List UInt8 :=
  bigEndian 4 w.toNat

end Digest

end Relmap

------------------------------------------------------------
-- Compression
------------------------------------------------------------

namespace Relmap

namespace Digest

/- Rotation of a word to the right. -/
def rotateRight
    (x : UInt32)
    (n : UInt32) : UInt32 :=
  x >>> n ||| x <<< (32 - n)

def smallSigma0 (x : UInt32) : UInt32 :=
  rotateRight x 7 ^^^ rotateRight x 18 ^^^ x >>> 3

def smallSigma1 (x : UInt32) : UInt32 :=
  rotateRight x 17 ^^^ rotateRight x 19 ^^^ x >>> 10

def bigSigma0 (x : UInt32) : UInt32 :=
  rotateRight x 2 ^^^ rotateRight x 13 ^^^ rotateRight x 22

def bigSigma1 (x : UInt32) : UInt32 :=
  rotateRight x 6 ^^^ rotateRight x 11 ^^^ rotateRight x 25

/-
  The first `count` words of the schedule that a window of
  sixteen consecutive words begins.
-/
def schedule :
    Nat → List UInt32 → List UInt32
  | 0, _ => []
  | _ + 1, [] => []
  | count + 1, first :: rest =>
      let next :=
        smallSigma1 (rest.getD 13 0) + rest.getD 8 0 +
          smallSigma0 (rest.getD 0 0) + first
      first :: schedule count (rest ++ [next])

/- One round with its constant and schedule word. -/
def round
    (s : State)
    (input : UInt32 × UInt32) : State :=
  let choice := (s.e &&& s.f) ^^^ (~~~s.e &&& s.g)
  let majority :=
    (s.a &&& s.b) ^^^ (s.a &&& s.c) ^^^ (s.b &&& s.c)
  let first :=
    s.h + bigSigma1 s.e + choice + input.1 + input.2
  let second := bigSigma0 s.a + majority
  ⟨first + second, s.a, s.b, s.c, s.d + first, s.e, s.f, s.g⟩

/- Wordwise sum of two hashes. -/
def State.add
    (s : State)
    (t : State) : State :=
  ⟨s.a + t.a, s.b + t.b, s.c + t.c, s.d + t.d,
    s.e + t.e, s.f + t.f, s.g + t.g, s.h + t.h⟩

/- Absorb one block of sixteen words. -/
def compress
    (s : State)
    (block : List UInt32) : State :=
  let inputs := roundConstants.zip (schedule 64 block)
  s.add (inputs.foldl round s)

/- Absorb a number of blocks of sixteen words. -/
def absorb :
    Nat → State → List UInt32 → State
  | 0, s, _ => s
  | blocks + 1, s, input =>
      absorb blocks (compress s (input.take 16))
        (input.drop 16)

end Digest

end Relmap

------------------------------------------------------------
-- Digest
------------------------------------------------------------

namespace Relmap

namespace Digest

/- The thirty-two bytes of the digest of a message. -/
def sha256 (message : List UInt8) : List UInt8 :=
  let input := words (pad message)
  let s := absorb (input.length / 16) initial input
  [s.a, s.b, s.c, s.d, s.e, s.f, s.g, s.h].flatMap wordBytes

/- The digest of the encoded bytes of a text in digits. -/
def sha256Hex (text : String) : String :=
  Hex.ofBytes (sha256 text.toUTF8.data.toList)

end Digest

end Relmap
