import Relmap.Catalog.Basic
import Relmap.Lookup
import Relmap.Text.Cut

/-
  Filter targets: what a registered filter key compares.

  A field is compared on its own column. A many-to-many or
  backward relation is compared on the far side through one
  joined table. A foreign key registers no key of its own.

  Key definitions include:
    * `FilterJoin`
    * `FilterTarget`
    * `Catalog.baseAndLookup`
    * `Catalog.filterTarget?`
-/

------------------------------------------------------------
-- Targets
------------------------------------------------------------

namespace Relmap

/-
  The joined table of a relational filter, and its column
  that holds the primary key of the model.
-/
structure FilterJoin where
  table : String
  backwardKey : String
  deriving DecidableEq

/- The member, its compared column, and how to compare it. -/
structure FilterTarget where
  member : String
  column : String
  lookup : Lookup
  join : Option FilterJoin
  deriving DecidableEq

namespace FilterTarget

/- The comparison needs a join. -/
def isRelational (target : FilterTarget) : Bool :=
  target.join.isSome

/- The table that holds the compared column. -/
def table
    (target : FilterTarget)
    (modelTable : String) : String :=
  match target.join with
  | some join => join.table
  | none => modelTable

end FilterTarget

end Relmap

------------------------------------------------------------
-- Registered Keys
------------------------------------------------------------

namespace Relmap

namespace Catalog

/-
  A key as the name of a member and a lookup. What stands
  behind the last separator counts as a lookup only if it is
  the suffix of one.
-/
def baseAndLookup (key : String) : String × Lookup :=
  match Text.cutLast? key with
  | some (base, suffix) =>
      match Lookup.ofSuffix? suffix with
      | some lookup => (base, lookup)
      | none => (key, .exact)
  | none => (key, .exact)

/- What a relation is compared on, if it is by itself. -/
def relationTarget?
    (catalog : Catalog)
    (relation : Relation)
    (member : String)
    (lookup : Lookup) : Option FilterTarget :=
  match relation.kind with
  | .foreignKey _ => none
  | .manyToMany link =>
      some
        { member := member
          column := link.forwardKey
          lookup := lookup
          join := some ⟨link.through, link.backwardKey⟩ }
  | .backward key => do
      let target ← catalog.model? relation.target
      let backing ← target.field? key.relationField
      let primary ← target.primaryKey?
      some
        { member := member
          column := primary.column
          lookup := lookup
          join := some ⟨target.table, backing.column⟩ }

/- What a key of a model compares, if it is registered. -/
def filterTarget?
    (catalog : Catalog)
    (model : Model)
    (key : String) : Option FilterTarget :=
  let (member, lookup) := baseAndLookup key
  match model.field? member with
  | some field =>
      some
        { member := member
          column := field.column
          lookup := lookup
          join := none }
  | none =>
      (model.relation? member).bind fun relation =>
        catalog.relationTarget? relation member lookup

end Catalog

end Relmap
