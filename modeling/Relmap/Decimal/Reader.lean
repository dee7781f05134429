import Relmap.Decimal.Integer
import Relmap.Double.Rounding

/-
  Reading a double from decimal text: an optional sign, then
  a number with or without point and exponent, or the name
  of a special value in any letter case. The result is the
  double nearest to the number that is written.

  Key definitions include:
    * `Decimal.nearestDouble`
    * `Decimal.readDouble?`
-/

------------------------------------------------------------
-- Nearest Double Of A Decimal
------------------------------------------------------------

namespace Relmap

namespace Decimal

/-
  The double nearest to `digits` times ten to the
  `exponent`. Beyond the range of doubles the magnitude of
  the exponent no longer matters.
-/
def nearestDouble
    (negative : Bool)
    (digits : Nat)
    (exponent : Int) : Double :=
  let lead := exponent + ((natDigits digits).length : Int)
  if digits = 0 ∨ lead < -400 then .zero negative
  else if 400 < lead then .infinity negative
  else
    .ofRatio negative (digits * tenTo exponent.toNat)
      (tenTo (-exponent).toNat)

end Decimal

end Relmap

------------------------------------------------------------
-- Grammar
------------------------------------------------------------

namespace Relmap

namespace Decimal

/- Split off a sign; the flag says that it is a minus. -/
def cutSign : List Char → Bool × List Char
  | '-' :: rest => (true, rest)
  | '+' :: rest => (false, rest)
  | rest => (false, rest)

/- The exponent after its letter, nothing else following. -/
def readExponent? : List Char → Option Int
  | [] => some 0
  | letter :: rest =>
      let (negative, digits) := cutSign rest
      if (letter = 'e' ∨ letter = 'E') ∧ digits ≠ [] ∧
          digits.all Char.isDigit then
        let magnitude : Int := readNat digits
        some (if negative then -magnitude else magnitude)
      else none

/- A number without its sign. -/
def readMagnitude?
    (negative : Bool)
    (text : List Char) : Option Double :=
  let whole := text.takeWhile Char.isDigit
  let afterWhole := text.dropWhile Char.isDigit
  let (places, rest) :=
    match afterWhole with
    | '.' :: tail =>
        (tail.takeWhile Char.isDigit,
          tail.dropWhile Char.isDigit)
    | _ => ([], afterWhole)
  if whole = [] ∧ places = [] then none
  else
    (readExponent? rest).map fun exponent =>
      nearestDouble negative (readNat (whole ++ places))
        (exponent - places.length)

/- A special value without its sign. -/
def readSpecial?
    (negative : Bool)
    (text : List Char) : Option Double :=
  let name := String.ofList (text.map Char.toLower)
  if name = "inf" ∨ name = "infinity" then
    some (.infinity negative)
  else if name = "nan" then
    some (if negative then Double.nan.opposite else .nan)
  else none

/- The double that a text writes, if it writes one. -/
def readDouble? (text : String) : Option Double :=
  let (negative, rest) := cutSign text.toList
  (readSpecial? negative rest).or
    (readMagnitude? negative rest)

end Decimal

end Relmap
