import Relmap.Json.Basic

/-
  Encoding of typed data as JSON values, in the forms that
  documents are decoded from.

  Key definitions include:
    * `Json.ofInt`
    * `Json.ofStrings`
    * `Json.ofOption`
    * `Json.variant`
-/

------------------------------------------------------------
-- Encoding
------------------------------------------------------------

namespace Relmap

namespace Json

/- A whole number. -/
def ofInt (n : Int) : Json :=
  .number (.integer n)

/- A natural number. -/
def ofNat (n : Nat) : Json :=
  ofInt n

/- An array of strings. -/
def ofStrings (texts : List String) : Json :=
  .array (texts.map .string)

/- An array of bytes. -/
def ofBytes (data : List UInt8) : Json :=
  .array (data.map fun byte => ofNat byte.toNat)

/- A double, or null if it is not finite. -/
def ofDouble (x : Double) : Json :=
  if x.isFinite then .number (.double x) else .null

/- Nothing as null. -/
def ofOption
    {α : Type}
    (encode : α → Json)
    (item : Option α) : Json :=
  item.elim .null encode

/- A variant with a payload. -/
def variant
    (name : String)
    (payload : Json) : Json :=
  .object [(name, payload)]

end Json

end Relmap
