import Relmap.Decimal.Integer
import Relmap.Double.Rounding
import Relmap.Json.Basic

/-
  Number literals and their values.

  A literal without point and exponent is a whole number if
  it fits sixty-four bits. Any other literal is a double,
  computed from at most sixty-four bits of its digits and
  one power of ten, so its last bit need not be that of the
  nearest double.

  Key definitions include:
    * `Json.Literal`
    * `Json.Literal.read?`
    * `Json.Literal.value?`
-/

------------------------------------------------------------
-- Literals
------------------------------------------------------------

namespace Relmap

namespace Json

/-
  A number literal: digits before the point, digits after it
  if there is a point, and the exponent if there is one.
-/
structure Literal where
  negative : Bool
  whole : List Char
  places : Option (List Char)
  exponent : Option Int

/- Read digits after a point; there must be some. -/
private def readPlaces? :
    List Char → Option (Option (List Char) × List Char)
  | '.' :: rest =>
      let places := rest.takeWhile Char.isDigit
      if places = [] then none
      else some (some places, rest.dropWhile Char.isDigit)
  | rest => some (none, rest)

/- The digits of an exponent as a signed number. -/
private def signedExponent?
    (negative : Bool)
    (digits : List Char) : Option Int :=
  if digits ≠ [] ∧ digits.all Char.isDigit then
    let magnitude : Int := Decimal.readNat digits
    some (if negative then -magnitude else magnitude)
  else none

/- Read an exponent; nothing may follow. -/
private def readPower? :
    List Char → Option (Option Int)
  | [] => some none
  | letter :: rest =>
      if letter = 'e' ∨ letter = 'E' then
        match rest with
        | '-' :: digits =>
            (signedExponent? true digits).map some
        | '+' :: digits =>
            (signedExponent? false digits).map some
        | digits => (signedExponent? false digits).map some
      else none

/-
  Read a literal. A whole part of more than one digit does
  not begin with zero.
-/
def Literal.read? (text : List Char) : Option Literal := do
  let (negative, unsigned) :=
    match text with
    | '-' :: rest => (true, rest)
    | rest => (false, rest)
  let whole := unsigned.takeWhile Char.isDigit
  if whole = [] ∨ (whole.head? = some '0' ∧ whole ≠ ['0'])
  then none
  else
    let (places, rest) ←
      readPlaces? (unsigned.dropWhile Char.isDigit)
    let exponent ← readPower? rest
    return ⟨negative, whole, places, exponent⟩

end Json

end Relmap

------------------------------------------------------------
-- Values
------------------------------------------------------------

namespace Relmap

namespace Json

/- The greatest significand that is kept. -/
def significandLimit : Nat := twoTo 64 - 1

/-
  Append digits to a significand while it stays within the
  limit. The second part counts the digits left out.
-/
def accumulate
    (significand : Nat) : List Char → Nat × Nat
  | [] => (significand, 0)
  | c :: rest =>
      let next := 10 * significand + Decimal.digitValue c
      if significandLimit < next then
        (significand, rest.length + 1)
      else accumulate next rest

/- The double nearest to a power of ten. -/
def powerOfTen (power : Nat) : Double :=
  .ofRatio false (tenTo power) 1

/-
  Divide by a power of ten in steps that doubles can hold.
-/
def scaleDown
    (x : Double)
    (power : Nat) : Double :=
  if power ≤ 308 then x.div (powerOfTen power)
  else if x.isZero then x
  else scaleDown (x.div (powerOfTen 308)) (power - 308)
  termination_by power

/-
  A significand times a power of ten, unless that is beyond
  the range of doubles.
-/
def scale?
    (significand : Nat)
    (power : Int) : Option Double :=
  let x := Double.ofInt significand
  if power < 0 then some (scaleDown x power.natAbs)
  else if power ≤ 308 then
    let scaled := x.mul (powerOfTen power.toNat)
    if scaled.isInfinite then none else some scaled
  else if x.isZero then some x
  else none

/- The double that a literal stands for. -/
def Literal.double? (literal : Literal) : Option Double :=
  let (head, skipped) := accumulate 0 literal.whole
  let places := literal.places.getD []
  let (significand, dropped) := accumulate head places
  let power : Int :=
    (skipped : Int) - ((places.length : Int) - dropped) +
      literal.exponent.getD 0
  (scale? significand power).map fun x =>
    if literal.negative then x.opposite else x

/-
  The whole number that a literal stands for, if it has the
  form of one and fits sixty-four bits. Minus zero does not
  count as a whole number.
-/
def Literal.integer? (literal : Literal) : Option Int :=
  if literal.places.isSome || literal.exponent.isSome then
    none
  else
    let n := Decimal.readNat literal.whole
    if literal.negative then
      if n = 0 ∨ twoTo 63 < n then none else some (-n)
    else if n ≤ significandLimit then some n
    else none

/- The value of a literal, unless it is out of range. -/
def Literal.value? (literal : Literal) : Option Number :=
  match literal.integer? with
  | some n => some (.integer n)
  | none => literal.double?.map .double

end Json

end Relmap
