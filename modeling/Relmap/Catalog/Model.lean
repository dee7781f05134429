import Relmap.Catalog.Field
import Relmap.Catalog.Relation
import Relmap.Error
import Relmap.Text.Lowercase

/-
  Models: tables with their fields and relations.

  Key definitions include:
    * `Model`
    * `Model.field?`
    * `Model.relation?`
    * `Model.primaryKey`
    * `Model.columnFor?`
-/

------------------------------------------------------------
-- Models
------------------------------------------------------------

namespace Relmap

/-
  A model. The groups of `uniqueTogether` and `indexes` name
  fields or foreign keys of the model.
-/
structure Model where
  name : String
  table : String := ""
  description : Option String := none
  fields : List Field := []
  relations : List Relation := []
  uniqueTogether : List (List String) := []
  indexes : List (List String) := []

namespace Model

/- A model without members, whose table is named after it. -/
def named (name : String) : Model :=
  { name := name, table := Text.lowercase name }

/- The first field with a name. -/
def field?
    (model : Model)
    (name : String) : Option Field :=
  model.fields.find? fun field => field.name = name

/- The first relation with a name. -/
def relation?
    (model : Model)
    (name : String) : Option Relation :=
  model.relations.find? fun relation => relation.name = name

/- The first field that is a primary key. -/
def primaryKey? (model : Model) : Option Field :=
  model.fields.find? Field.primaryKey

/- The primary key, which a model ought to have. -/
def primaryKey (model : Model) : Except Error Field :=
  match model.primaryKey? with
  | some field => .ok field
  | none => .error (.noPrimaryKey model.name)

/- The column of the primary key. -/
def keyColumn (model : Model) : Except Error String :=
  model.primaryKey.map Field.column

/-
  The column that a field, or else a foreign key, has in the
  table of the model.
-/
def columnFor?
    (model : Model)
    (name : String) : Option String :=
  match model.field? name with
  | some field => some field.column
  | none => do
      let relation ← model.relation? name
      let source ← relation.sourceField?
      (model.field? source).map Field.column

end Model

end Relmap
