import Relmap.Error
import Relmap.Json.Printer
import Relmap.Value.Document

/-
  Right-hand sides of filter constraints.

  Key definitions include:
    * `FilterValue`
    * `FilterValue.identity`
    * `FilterValue.equal`
    * `FilterValue.ofJson`
-/

------------------------------------------------------------
-- Right-Hand Sides
------------------------------------------------------------

namespace Relmap

/- A literal, or an instance of a model by its key. -/
inductive FilterValue where
  | literal (value : Value)
  | instanceOf (model : String) (key : Value)

namespace FilterValue

/- What is compared: an instance stands for its key. -/
def identity : FilterValue → Value
  | .literal value => value
  | .instanceOf _ key => key

/- Equality, with literals compared as literals are. -/
def equal : FilterValue → FilterValue → Bool
  | .literal x, .literal y => x.equal y
  | .instanceOf m x, .instanceOf n y => m == n && x.equal y
  | _, _ => false

end FilterValue

/- Data that have a literal may be compared with. -/
def FilterValue.ofData
    {α : Type}
    [ToValue α]
    (datum : α) : FilterValue :=
  .literal (toValue datum)

end Relmap

------------------------------------------------------------
-- JSON Values
------------------------------------------------------------

namespace Relmap

/- A literal of a JSON value, its fault taken as a fault. -/
def Value.ofJsonChecked
    (json : Json) : Except Error Value :=
  (Value.ofJson json).mapError .value

namespace FilterValue

/-
  The right-hand side that a JSON value writes. An object
  writes an instance and has to carry its model and key.
-/
def ofJson (json : Json) : Except Error FilterValue :=
  match json with
  | .object members =>
      match Json.member? "model" members,
          Json.member? "pk" members with
      | some (.string model), some key =>
          (Value.ofJsonChecked key).map (.instanceOf model)
      | _, _ => .error (.instanceExpected json.compact)
  | _ => (Value.ofJsonChecked json).map .literal

end FilterValue

end Relmap
