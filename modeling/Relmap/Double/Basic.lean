import Relmap.Power

/-
  Double-precision numbers as the sixty-four bits of their
  binary interchange format.

  A finite number is a sign, a significand below 2^53 and a
  power of two. Numbers are kept as bits, so two numbers are
  the same term exactly when they are the same datum; the
  numeric comparison is a definition of its own.

  Key definitions include:
    * `Double`
    * `Double.significand`
    * `Double.exponent`
    * `Double.equal`
-/

------------------------------------------------------------
-- Format
------------------------------------------------------------

namespace Relmap

/- A double-precision number in its interchange format. -/
structure Double where
  bits : UInt64
  deriving DecidableEq

namespace Double

/- The sign bit is set. -/
def negative (x : Double) : Bool :=
  twoTo 63 ≤ x.bits.toNat

/- The eleven bits of the biased exponent. -/
def biased (x : Double) : Nat :=
  x.bits.toNat / twoTo 52 % twoTo 11

/- The fifty-two bits of the fraction. -/
def fraction (x : Double) : Nat :=
  x.bits.toNat % twoTo 52

/- The number without its sign. -/
def magnitudeBits (x : Double) : Nat :=
  x.bits.toNat % twoTo 63

def isNaN (x : Double) : Bool :=
  x.biased = 2047 && x.fraction ≠ 0

def isInfinite (x : Double) : Bool :=
  x.biased = 2047 && x.fraction = 0

def isFinite (x : Double) : Bool :=
  x.biased ≠ 2047

/- Positive or negative zero. -/
def isZero (x : Double) : Bool :=
  x.magnitudeBits = 0

/-
  The integer significand of a finite number. Numbers with
  the least exponent have no hidden bit.
-/
def significand (x : Double) : Nat :=
  if x.biased = 0 then x.fraction
  else twoTo 52 + x.fraction

/- The power of two that the significand is scaled by. -/
def exponent (x : Double) : Int :=
  if x.biased = 0 then -1074
  else (x.biased : Int) - 1075

end Double

end Relmap

------------------------------------------------------------
-- Comparison
------------------------------------------------------------

namespace Relmap

namespace Double

/-
  Numeric equality: the two zeros are equal and a NaN equals
  nothing, not even itself.
-/
def equal
    (x : Double)
    (y : Double) : Bool :=
  !x.isNaN && !y.isNaN &&
    (x.bits = y.bits || (x.isZero && y.isZero))

end Double

end Relmap

------------------------------------------------------------
-- Construction From Parts
------------------------------------------------------------

namespace Relmap

namespace Double

/- A number from its sign and the bits of its magnitude. -/
def ofMagnitude
    (negative : Bool)
    (magnitude : Nat) : Double :=
  ⟨UInt64.ofNat
    (magnitude + if negative then twoTo 63 else 0)⟩

/- Infinity with a sign. -/
def infinity (negative : Bool) : Double :=
  ofMagnitude negative (2047 * twoTo 52)

/- Zero with a sign. -/
def zero (negative : Bool) : Double :=
  ofMagnitude negative 0

/- A quiet NaN. -/
def nan : Double :=
  ofMagnitude false (2047 * twoTo 52 + twoTo 51)

/- The number with the opposite sign. -/
def opposite (x : Double) : Double :=
  ofMagnitude (!x.negative) x.magnitudeBits

end Double

end Relmap
