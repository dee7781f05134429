import Relmap.Catalog.FieldType
import Relmap.Value.Basic

/-
  Fields: the columns of a model.

  Key definitions include:
    * `Field`
    * `Field.column`
    * `Field.isReference`
-/

------------------------------------------------------------
-- Fields
------------------------------------------------------------

namespace Relmap

/-
  A field. Its column has a name of its own if `sourceField`
  is set, and `reference` names the foreign key that it
  backs.
-/
structure Field where
  name : String
  sourceField : Option String := none
  type : FieldType
  primaryKey : Bool := false
  nullable : Bool := false
  unique : Bool := false
  index : Bool := false
  description : Option String := none
  default : Option Value := none
  reference : Option String := none

namespace Field

/- The name of the column in its table. -/
def column (field : Field) : String :=
  field.sourceField.getD field.name

/- The column backs a foreign key. -/
def isReference (field : Field) : Bool :=
  field.reference.isSome

/- A field of a type with everything else left out. -/
def ofType
    (name : String)
    (type : FieldType) : Field :=
  { name := name, type := type }

/- A primary key of a type. -/
def keyOfType
    (name : String)
    (type : FieldType) : Field :=
  { ofType name type with primaryKey := true }

end Field

end Relmap
