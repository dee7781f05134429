import Relmap.Catalog.FilterTarget
import Relmap.Query.Computed
import Relmap.Query.CustomFilters
import Relmap.Query.FilterTree
import Relmap.Text.Ordered

/-
  Resolution of filter trees against a model.

  A filter key is tried in turn as a relation, a custom
  filter, a registered filter and a path. A path hops along
  the relation of its first segment, and its rest is resolved
  as a key of the target. A foreign key stands for the field
  that backs it.

  Key definitions include:
    * `Context`
    * `Context.backingKey`
    * `Context.hop?`
    * `Context.resolveDirect`
    * `Context.resolveCustom`
    * `Context.resolveWithin`
    * `Context.resolveKey`
    * `FilterTree.resolve`
-/

------------------------------------------------------------
-- Contexts
------------------------------------------------------------

namespace Relmap

/- All that filter keys may refer to. -/
structure Context where
  catalog : Catalog
  computed : ComputedColumns
  custom : CustomFilters

namespace Context

/- A context without computed columns. -/
def ofCatalog (catalog : Catalog) : Context :=
  ⟨catalog, [], .empty⟩

end Context

end Relmap

------------------------------------------------------------
-- Keys
------------------------------------------------------------

namespace Relmap

namespace Context

/-
  The names that a key of the model may begin with: fields,
  relations and custom filters, sorted.
-/
def allowedNames
    (context : Context)
    (model : Model) : List String :=
  Text.sortUnique
    (model.fields.map Field.name ++
      model.relations.map Relation.name ++
      context.custom.keys)

/- The fault of a key that names nothing. -/
def unknownKey
    (context : Context)
    (model : Model)
    (key : String) : Error :=
  .unknownKey key (context.allowedNames model)

/- The key names something, or begins with a relation. -/
def accepts
    (context : Context)
    (model : Model)
    (key : String) : Bool :=
  (model.relation? (Text.headSegment key)).isSome ||
    context.custom.contains key ||
    (context.catalog.filterTarget? model key).isSome

/-
  The key by which a constraint is evaluated. A foreign key
  is replaced by its backing field; any other key stays if
  it is accepted.
-/
def backingKey
    (context : Context)
    (model : Model)
    (key : String) : Except Error String :=
  match model.relation? key with
  | some relation => .ok (relation.sourceField?.getD key)
  | none =>
      if context.accepts model key then .ok key
      else .error (context.unknownKey model key)

/-
  The relation that a key hops along and the rest of the
  key, unless the key is a registered filter.
-/
def hop?
    (context : Context)
    (model : Model)
    (key : String) : Option (Relation × String) :=
  if (context.catalog.filterTarget? model key).isSome then
    none
  else do
    let (head, rest) ← Text.cutFirst? key
    let relation ← model.relation? head
    return (relation, rest)

end Context

end Relmap

------------------------------------------------------------
-- Registered And Custom Filters
------------------------------------------------------------

namespace Relmap

namespace Context

/-
  What a key compares and the literal that it is compared
  with. A key whose test for null is registered tests for
  null if it is compared with null.
-/
def directTarget
    (context : Context)
    (model : Model)
    (key : String)
    (value : Value) : Except Error (FilterTarget × Value) :=
  let catalog := context.catalog
  let nullKey := Lookup.isNull.key key
  match catalog.filterTarget? model nullKey, value.isNull with
  | some target, true => .ok (target, .bool true)
  | _, _ =>
      match catalog.filterTarget? model key with
      | some target => .ok (target, value)
      | none => .error (context.unknownKey model key)

/- The joins that a filter target needs. -/
def targetJoins
    (model : Model)
    (target : FilterTarget) : Except Error (List Join) :=
  match target.join with
  | none => .ok []
  | some join => do
      let key ← model.keyColumn
      return [
        .onColumns join.table join.backwardKey
          model.table key]

/- Resolve a key that is a registered filter. -/
def resolveDirect
    (context : Context)
    (model : Model)
    (key : String)
    (value : Value) : Except Error Modifier := do
  let (target, operand) ←
    context.directTarget model key value
  let joins ← targetJoins model target
  let term :=
    Term.qualified (target.table model.table) target.column
  let criterion ← target.lookup.criterion term operand
  return (Modifier.ofJoins joins).withPredicate criterion

/-
  Resolve a custom filter. A comparison of an aggregate
  constrains groups, any other constrains rows.
-/
def resolveCustom
    (context : Context)
    (model : Model)
    (filter : CustomFilter)
    (value : Value) : Except Error Modifier :=
  match context.computed.lookup filter.computed with
  | none => .error (.computedNotFound filter.computed)
  | some computed => do
      let resolved ← computed.resolve context.catalog model
      let criterion ←
        filter.lookup.criterion resolved.term value
      let modifier := Modifier.ofJoins resolved.joins
      return if resolved.term.isAggregate then
        modifier.withHaving criterion
      else
        modifier.withPredicate criterion

end Context

end Relmap

------------------------------------------------------------
-- Constraints
------------------------------------------------------------

namespace Relmap

namespace Context

/-
  Resolve a key in at most so many steps, of which every hop
  takes one.
-/
def resolveWithin
    (context : Context)
    (value : Value) :
    Nat → Model → String → Except Error Modifier
  | 0, _, key => .error (.endless key)
  | steps + 1, model, key => do
      let backing ← context.backingKey model key
      match context.custom.get? backing with
      | some filter =>
          context.resolveCustom model filter value
      | none =>
          match context.hop? model backing with
          | none =>
              context.resolveDirect model backing value
          | some (relation, rest) =>
              let catalog := context.catalog
              let target ← catalog.require relation.target
              let joins ← catalog.relationJoins model relation
              let nested ←
                resolveWithin context value steps target rest
              return (Modifier.ofJoins joins).and nested

/- The fields that back the foreign keys of a model. -/
def sourceFields (model : Model) : List String :=
  model.relations.filterMap Relation.sourceField?

/- The number of rests that some texts have in all. -/
def restCount : List String → Nat
  | [] => 0
  | text :: others => text.length + 1 + restCount others

/-
  A number of steps that a resolution which ends does not
  exceed. At every step the model is the first one or one of
  the catalog, and the key is a rest of the first key or of
  a backing field. A resolution that meets the same model
  and key twice goes on forever.
-/
def stepLimit
    (context : Context)
    (model : Model)
    (key : String) : Nat :=
  let models := model :: context.catalog.models
  let texts := key :: models.flatMap sourceFields
  models.length * restCount texts + 1

/- Resolve one constraint. -/
def resolveKey
    (context : Context)
    (model : Model)
    (key : String)
    (value : FilterValue) : Except Error Modifier :=
  context.resolveWithin value.identity
    (context.stepLimit model key) model key

end Context

end Relmap

------------------------------------------------------------
-- Trees
------------------------------------------------------------

namespace Relmap

/- Combine two modifiers by a join type. -/
def JoinType.combine
    (joinType : JoinType)
    (left : Modifier)
    (right : Modifier) : Modifier :=
  match joinType with
  | .and => left.and right
  | .or => left.or right

namespace FilterTree

/- Negate a modifier if the flag is set. -/
def negateIf
    (negated : Bool)
    (modifier : Modifier) : Modifier :=
  if negated then modifier.negate else modifier

/-
  Resolve constraints in order, each combined with those
  before it.
-/
def resolveConstraints
    (context : Context)
    (model : Model)
    (joinType : JoinType)
    (before : Modifier) :
    List Constraint → Except Error Modifier
  | [] => .ok before
  | (key, value) :: rest => do
      let part ← context.resolveKey model key value
      resolveConstraints context model joinType
        (joinType.combine before part) rest

mutual

/-
  Resolve a tree against a model. A node with constraints of
  its own resolves only those; negation applies last.
-/
def resolve
    (context : Context)
    (model : Model) :
    FilterTree → Except Error Modifier
  | ⟨children, constraints, joinType, negated, _⟩ => do
      let modifier ←
        if constraints.isEmpty then
          resolveChildren context model joinType .none children
        else
          resolveConstraints context model joinType .none
            constraints
      return negateIf negated modifier

/-
  Resolve children in order, each combined with those before
  it.
-/
def resolveChildren
    (context : Context)
    (model : Model)
    (joinType : JoinType)
    (before : Modifier) :
    List FilterTree → Except Error Modifier
  | [] => .ok before
  | child :: rest => do
      let part ← resolve context model child
      resolveChildren context model joinType
        (joinType.combine before part) rest

end

end FilterTree

end Relmap
