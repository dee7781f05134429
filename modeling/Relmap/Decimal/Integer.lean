/-
  Whole numbers in decimal digits.

  Key definitions include:
    * `Decimal.ofNat`
    * `Decimal.ofInt`
    * `Decimal.readNat`
-/

------------------------------------------------------------
-- Whole Numbers
------------------------------------------------------------

namespace Relmap

namespace Decimal

/- The digits of a natural number, without leading zeros. -/
def natDigits (n : Nat) : List Char :=
  Nat.toDigits 10 n

/- The digits of an integer behind a sign if it is negative. -/
def intDigits : Int → List Char
  | .ofNat n => natDigits n
  | .negSucc n => '-' :: natDigits (n + 1)

/- A natural number as text. -/
def ofNat (n : Nat) : String :=
  String.ofList (natDigits n)

/- An integer as text. -/
def ofInt (n : Int) : String :=
  String.ofList (intDigits n)

/- The value of one digit. -/
def digitValue (c : Char) : Nat :=
  c.toNat - '0'.toNat

/- The number that a row of digits writes. -/
def readNat (digits : List Char) : Nat :=
  digits.foldl (fun n c => 10 * n + digitValue c) 0

end Decimal

end Relmap
