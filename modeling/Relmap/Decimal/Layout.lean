import Relmap.Decimal.Integer
import Relmap.Decimal.Shortest

/-
  Texts of doubles: which decimal is written and where its
  point and exponent go.

  Key definitions include:
    * `Decimal.Layout`
    * `Decimal.positional`
    * `Decimal.scientific`
    * `Decimal.Layout.write`
-/

------------------------------------------------------------
-- Forms
------------------------------------------------------------

namespace Relmap

namespace Decimal

/-
  A decimal without an exponent. A whole number is followed
  by `tail`.
-/
def positional
    (tail : String)
    (d : Decimal) : String :=
  let digits := natDigits d.digits
  let places := (-d.exponent).toNat
  if places = 0 then
    String.ofList
      (digits ++ List.replicate d.exponent.toNat '0') ++ tail
  else
    let padded :=
      List.replicate (places + 1 - digits.length) '0' ++
        digits
    let whole := padded.length - places
    String.ofList
      (padded.take whole ++ '.' :: padded.drop whole)

/- The power of ten of the first digit. -/
def lead (d : Decimal) : Int :=
  d.exponent + ((natDigits d.digits).length : Int) - 1

/-
  A decimal with one digit in front of the point and an
  exponent that always has a sign.
-/
def scientific (d : Decimal) : String :=
  let mantissa :=
    match natDigits d.digits with
    | first :: second :: rest =>
        first :: '.' :: second :: rest
    | digits => digits
  let sign := if d.lead < 0 then "-" else "+"
  String.ofList mantissa ++ "e" ++ sign ++
    ofNat d.lead.natAbs

end Decimal

end Relmap

------------------------------------------------------------
-- Layouts
------------------------------------------------------------

namespace Relmap

namespace Decimal

/-
  The decisions of an output format: which of two equally
  near decimals is written, what follows a whole number, and
  between which powers of ten of the first digit no exponent
  is written (everywhere if there are none).
-/
structure Layout where
  tie : Tie
  wholeTail : String
  plainRange : Option (Int × Int)

/- The power of ten is written without an exponent. -/
def Layout.plain
    (layout : Layout)
    (power : Int) : Bool :=
  match layout.plainRange with
  | none => true
  | some (low, high) => low ≤ power && power ≤ high

/- The text of the magnitude of a finite double. -/
def Layout.magnitude
    (layout : Layout)
    (x : Double) : String :=
  let d :=
    if x.isZero then ⟨0, 0⟩ else shortest layout.tie x
  if layout.plain d.lead then
    positional layout.wholeTail d
  else scientific d

/-
  The text of a double. Zero keeps its sign and a NaN has
  none.
-/
def Layout.write
    (layout : Layout)
    (x : Double) : String :=
  if x.isNaN then "NaN"
  else
    let sign := if x.negative then "-" else ""
    let body :=
      if x.isInfinite then "inf" else layout.magnitude x
    sign ++ body

end Decimal

end Relmap
