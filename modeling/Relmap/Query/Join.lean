import Relmap.Catalog.Basic
import Relmap.Query.Modifier

/-
  The joins that follow a relation.

  A foreign key leads to the target in one step, from its
  backing column to the primary key; a backward key leads
  there the other way round; a many-to-many relation takes
  one step to the link table and one to the target.

  Key definitions include:
    * `Model.columnOf`
    * `Catalog.relationJoins`
-/

------------------------------------------------------------
-- Columns
------------------------------------------------------------

namespace Relmap

/- The column of a field, which ought to exist. -/
def Model.columnOf
    (model : Model)
    (field : String) : Except Error String :=
  match model.field? field with
  | some found => .ok found.column
  | none => .error (.fieldNotFound field model.name)

end Relmap

------------------------------------------------------------
-- Joins Of Relations
------------------------------------------------------------

namespace Relmap

/-
  Join a table whose column equals a column that is already
  part of the query.
-/
def Join.onColumns
    (table : String)
    (column : String)
    (knownTable : String)
    (knownColumn : String) : Join :=
  ⟨table,
    (Term.qualified table column).eqTerm
      (.qualified knownTable knownColumn)⟩

/- The joins from a model to the target of a relation. -/
def Catalog.relationJoins
    (catalog : Catalog)
    (origin : Model)
    (relation : Relation) : Except Error (List Join) := do
  let target ← catalog.require relation.target
  match relation.kind with
  | .foreignKey key =>
      let column ← origin.columnOf key.sourceField
      let targetKey ← target.keyColumn
      return [
        .onColumns target.table targetKey
          origin.table column]
  | .backward key =>
      let column ← target.columnOf key.relationField
      let originKey ← origin.keyColumn
      return [
        .onColumns target.table column
          origin.table originKey]
  | .manyToMany link =>
      let originKey ← origin.keyColumn
      let targetKey ← target.keyColumn
      return [
        .onColumns link.through link.backwardKey
          origin.table originKey,
        .onColumns target.table targetKey
          link.through link.forwardKey]

end Relmap
