import Relmap.Double.Basic

/-
  The fewest decimal digits that read back as a given
  double, and of the decimals with so few digits the nearest.

  A double stands for the reals that round to it: the
  interval between the midpoints to its two neighbours,
  which belongs to it with its ends when the significand is
  even. Decimals with a fixed number of digits form a grid,
  and if the interval holds a point of the grid then it
  holds one of the two points beside the number itself.

  Key definitions include:
    * `Decimal`
    * `Decimal.Tie`
    * `Decimal.nearestOnGrid?`
    * `Decimal.shortest`
-/

------------------------------------------------------------
-- Decimals
------------------------------------------------------------

namespace Relmap

/- The number `digits` times ten to the `exponent`. -/
structure Decimal where
  digits : Nat
  exponent : Int
  deriving DecidableEq

namespace Decimal

/- Which of two equally near decimals is taken. -/
inductive Tie where
  | up
  | toEven
  deriving DecidableEq

/- A final zero is part of the exponent. -/
def normalize (d : Decimal) : Decimal :=
  if d.digits % 10 = 0 ∧ d.digits ≠ 0 then
    ⟨d.digits / 10, d.exponent + 1⟩
  else d

end Decimal

end Relmap

------------------------------------------------------------
-- Rounding Intervals
------------------------------------------------------------

namespace Relmap

namespace Decimal

/-
  The reals that round to a double, in quarters of its last
  place: from `low` to `high` around `4 * significand`.
-/
structure Interval where
  significand : Nat
  exponent : Int
  low : Nat
  high : Nat
  closed : Bool

/-
  The interval of a positive double. Below a power of two
  the doubles lie twice as close.
-/
def intervalOf (x : Double) : Interval :=
  let m := x.significand
  let below := if m = twoTo 52 ∧ 1 < x.biased then 1 else 2
  ⟨m, x.exponent, 4 * m - below, 4 * m + 2, m % 2 = 0⟩

/-
  Factors that make points of the grid of step `10^place`
  and quarters of the last place comparable: a point times
  the first, a quarter times the second.
-/
def scales
    (interval : Interval)
    (place : Int) : Nat × Nat :=
  let power := interval.exponent - 2
  (tenTo place.toNat * twoTo (-power).toNat,
    twoTo power.toNat * tenTo (-place).toNat)

/- The point of the grid belongs to the interval. -/
def holds
    (interval : Interval)
    (place : Int)
    (point : Nat) : Bool :=
  let (step, quarter) := scales interval place
  let scaled := point * step
  let low := interval.low * quarter
  let high := interval.high * quarter
  if interval.closed then low ≤ scaled && scaled ≤ high
  else low < scaled && scaled < high

end Decimal

end Relmap

------------------------------------------------------------
-- Shortest Decimal
------------------------------------------------------------

namespace Relmap

namespace Decimal

/- The nearer of a grid point and the next one. -/
def nearerPoint
    (tie : Tie)
    (interval : Interval)
    (place : Int)
    (point : Nat) : Nat :=
  let (step, quarter) := scales interval place
  let twice := 8 * interval.significand * quarter
  let middle := (2 * point + 1) * step
  if twice < middle then point
  else if middle < twice then point + 1
  else
    match tie with
    | .up => point + 1
    | .toEven => point + point % 2

/-
  The point of a grid that belongs to the interval, if there
  is one, and the nearer one if both neighbours do.
-/
def nearestOnGrid?
    (tie : Tie)
    (interval : Interval)
    (place : Int) : Option Nat :=
  let (step, quarter) := scales interval place
  let point := 4 * interval.significand * quarter / step
  if holds interval place point then
    if holds interval place (point + 1) then
      some (nearerPoint tie interval place point)
    else some point
  else if holds interval place (point + 1) then
    some (point + 1)
  else none

/-
  The place of the first digit of a positive ratio: the
  greatest power of ten that is not above it.
-/
def leadingPlace
    (num : Nat)
    (den : Nat) : Int :=
  let guess : Int :=
    ((Nat.toDigits 10 num).length : Int) -
      (Nat.toDigits 10 den).length
  let reached := den * tenTo guess.toNat
  if reached ≤ num * tenTo (-guess).toNat then guess
  else guess - 1

/-
  The shortest decimal of a positive finite double.
  Seventeen digits are always enough.
-/
def shortest
    (tie : Tie)
    (x : Double) : Decimal :=
  let interval := intervalOf x
  let lead :=
    leadingPlace
      (x.significand * twoTo x.exponent.toNat)
      (twoTo (-x.exponent).toNat)
  let found :=
    (List.range 17).findSome? fun (index : Nat) =>
      let place : Int := lead - index
      (nearestOnGrid? tie interval place).map fun point =>
        normalize ⟨point, place⟩
  found.getD ⟨0, 0⟩

end Decimal

end Relmap
