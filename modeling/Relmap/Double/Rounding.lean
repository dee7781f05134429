import Relmap.Double.Basic

/-
  Rounding of exact ratios to doubles, and the arithmetic
  that is defined through it: a result is the double nearest
  to the exact one, and of two equally near the one with an
  even significand.

  Key definitions include:
    * `Double.roundDiv`
    * `Double.ofRatio`
    * `Double.ofInt`
    * `Double.mul`
    * `Double.div`
-/

------------------------------------------------------------
-- Nearest Double
------------------------------------------------------------

namespace Relmap

namespace Double

/- The nearest whole number to a ratio, ties to even. -/
def roundDiv
    (num : Nat)
    (den : Nat) : Nat :=
  let quotient := num / den
  let rest := 2 * (num % den)
  if rest < den then quotient
  else if den < rest then quotient + 1
  else quotient + quotient % 2

/- A ratio divided by a power of two, as a ratio. -/
def descale
    (num : Nat)
    (den : Nat)
    (exponent : Int) : Nat × Nat :=
  (num * twoTo (-exponent).toNat,
    den * twoTo exponent.toNat)

/-
  The exponent for which a positive ratio has a significand
  of fifty-three bits, but never below the least exponent.
-/
def ratioExponent
    (num : Nat)
    (den : Nat) : Int :=
  let guess : Int := (num.log2 : Int) - den.log2 - 53
  let (scaled, unit) := descale num den guess
  let exact :=
    if unit * twoTo 53 ≤ scaled then guess + 1 else guess
  max exact (-1074)

/-
  The double nearest to a ratio with a sign. The bits of a
  magnitude count the doubles above zero, so a significand
  that rounds up to the next power of two needs no care.
-/
def ofRatio
    (negative : Bool)
    (num : Nat)
    (den : Nat) : Double :=
  if num = 0 then zero negative
  else
    let exponent := ratioExponent num den
    let (scaled, unit) := descale num den exponent
    let magnitude :=
      (exponent + 1074).toNat * twoTo 52 +
        roundDiv scaled unit
    if 2047 * twoTo 52 ≤ magnitude then infinity negative
    else ofMagnitude negative magnitude

/- The double nearest to an integer. -/
def ofInt (n : Int) : Double :=
  ofRatio (n < 0) n.natAbs 1

end Double

end Relmap

------------------------------------------------------------
-- Arithmetic Of Finite Numbers
------------------------------------------------------------

namespace Relmap

namespace Double

/- The magnitude of a finite number as a ratio. -/
def ratio (x : Double) : Nat × Nat :=
  descale x.significand 1 (-x.exponent)

/- The rounded product of two finite numbers. -/
def mul
    (x : Double)
    (y : Double) : Double :=
  ofRatio (x.negative != y.negative)
    (x.ratio.1 * y.ratio.1)
    (x.ratio.2 * y.ratio.2)

/- The rounded quotient of finite numbers, `y` not zero. -/
def div
    (x : Double)
    (y : Double) : Double :=
  ofRatio (x.negative != y.negative)
    (x.ratio.1 * y.ratio.2)
    (x.ratio.2 * y.ratio.1)

end Double

end Relmap
