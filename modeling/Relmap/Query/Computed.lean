import Relmap.Query.Join

/-
  Computed columns: expressions that a query carries under a
  name.

  Key definitions include:
    * `Computed`
    * `ComputedColumns`
    * `ResolvedComputed`
    * `Computed.resolve`
-/

------------------------------------------------------------
-- Computed Columns
------------------------------------------------------------

namespace Relmap

/-
  A plain column of the model, or an aggregate over one of
  its fields or relations, or over `*`.
-/
inductive Computed where
  | column (field : String)
  | aggregate
      (function : AggregateFunction)
      (field : String)
      (distinct : Bool)
  deriving DecidableEq

/- Computed columns by name; the first of a name counts. -/
abbrev ComputedColumns := List (String × Computed)

/- The expression of a computed column and its joins. -/
structure ResolvedComputed where
  term : Term
  joins : List Join

namespace Computed

/- Aggregate over distinct values. -/
def distinctly : Computed → Computed
  | .aggregate function field _ =>
      .aggregate function field true
  | .column field => .column field

/- The column is computed over groups of rows. -/
def isAggregate : Computed → Bool
  | .aggregate _ _ _ => true
  | .column _ => false

end Computed

end Relmap

------------------------------------------------------------
-- Resolution
------------------------------------------------------------

namespace Relmap

namespace Computed

/- The column of a field or foreign key of a model. -/
def fieldTerm
    (model : Model)
    (field : String) : Except Error Term :=
  match model.columnFor? field with
  | some found => .ok (.qualified model.table found)
  | none =>
      .error (.computedFieldNotFound field model.table)

/-
  The relation that an aggregate is over: a relation counts
  only if no field has its name.
-/
def relationOf?
    (model : Model)
    (field : String) : Option Relation :=
  if (model.field? field).isSome then none
  else model.relation? field

/-
  The expression of a computed column of a model. Over a
  relation it is the key of the target, reached by joins.
-/
def resolve
    (catalog : Catalog)
    (model : Model)
    (computed : Computed) : Except Error ResolvedComputed :=
  match computed with
  | .column field => do
      let term ← fieldTerm model field
      return ⟨term, []⟩
  | .aggregate function field distinct =>
      if field = "*" then
        .ok ⟨.aggregate function none distinct, []⟩
      else
        match relationOf? model field with
        | some relation => do
            let target ← catalog.require relation.target
            let joins ← catalog.relationJoins model relation
            let key ← target.keyColumn
            let term := Term.qualified target.table key
            return ⟨.aggregate function term distinct, joins⟩
        | none => do
            let term ← fieldTerm model field
            return ⟨.aggregate function term distinct, []⟩

end Computed

end Relmap
