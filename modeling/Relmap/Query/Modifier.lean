import Relmap.Criterion.Text

/-
  Modifiers: what a filter adds to a query.

  A modifier has a predicate on rows, the joins that it
  needs, and a predicate on groups. A predicate may be
  empty, which constrains nothing: it is a unit of both
  combinations and its own negation. As soon as a
  disjunction or a negation meets a predicate on groups,
  everything moves there. Joins are only ever added.

  Key definitions include:
    * `Predicate`
    * `Join`
    * `Modifier`
    * `Modifier.and`
    * `Modifier.or`
    * `Modifier.negate`
-/

------------------------------------------------------------
-- Predicates
------------------------------------------------------------

namespace Relmap

/- An expression, or nothing. -/
inductive Predicate where
  | empty
  | expr (criterion : Criterion)

namespace Predicate

/- The predicate constrains nothing. -/
def isEmpty : Predicate → Bool
  | .empty => true
  | .expr _ => false

/- The expression of a predicate that has one. -/
def criterion? : Predicate → Option Criterion
  | .empty => none
  | .expr criterion => some criterion

/- The predicate of an expression, or of nothing. -/
def ofOption : Option Criterion → Predicate
  | none => .empty
  | some criterion => .expr criterion

/- Both predicates. -/
def and : Predicate → Predicate → Predicate
  | .empty, right => right
  | left, .empty => left
  | .expr left, .expr right => .expr (.and left right)

/- Either predicate, or the one that is not empty. -/
def or : Predicate → Predicate → Predicate
  | .empty, right => right
  | left, .empty => left
  | .expr left, .expr right => .expr (.or left right)

/- The opposite predicate. -/
def negate : Predicate → Predicate
  | .empty => .empty
  | .expr criterion => .expr (.not criterion)

/- The text of the predicate, empty if it is. -/
def sql : Predicate → String
  | .empty => ""
  | .expr criterion => criterion.sql

/- Some operand of the predicate is an aggregate. -/
def hasAggregate : Predicate → Bool
  | .empty => false
  | .expr criterion => criterion.hasAggregate

end Predicate

end Relmap

------------------------------------------------------------
-- Joins
------------------------------------------------------------

namespace Relmap

/- A joined table and the condition that it is joined on. -/
structure Join where
  table : String
  condition : Criterion

namespace Join

/- The join as text. -/
def sql (join : Join) : String :=
  "LEFT OUTER JOIN \"" ++ join.table ++ "\" ON " ++
    join.condition.sql

end Join

end Relmap

------------------------------------------------------------
-- Modifiers
------------------------------------------------------------

namespace Relmap

/-
  A row predicate, joins in the order that they are needed,
  and a group predicate. Joins may repeat.
-/
structure Modifier where
  predicate : Predicate := .empty
  joins : List Join := []
  having : Predicate := .empty

namespace Modifier

/- The modifier that adds nothing. -/
def none : Modifier := {}

/- A modifier of joins alone. -/
def ofJoins (joins : List Join) : Modifier :=
  { joins := joins }

/- Set the row predicate. -/
def withPredicate
    (modifier : Modifier)
    (criterion : Criterion) : Modifier :=
  { modifier with predicate := .expr criterion }

/- Set the group predicate. -/
def withHaving
    (modifier : Modifier)
    (criterion : Criterion) : Modifier :=
  { modifier with having := .expr criterion }

/- Append a join. -/
def withJoin
    (modifier : Modifier)
    (join : Join) : Modifier :=
  { modifier with joins := modifier.joins ++ [join] }

/- Neither predicate constrains anything. -/
def isEmpty (modifier : Modifier) : Bool :=
  modifier.predicate.isEmpty && modifier.having.isEmpty

/- Both predicates as one. -/
def combined (modifier : Modifier) : Predicate :=
  modifier.predicate.and modifier.having

/- Both modifiers. -/
def and
    (left : Modifier)
    (right : Modifier) : Modifier :=
  { predicate := left.predicate.and right.predicate
    joins := left.joins ++ right.joins
    having := left.having.and right.having }

/-
  Either modifier. If one of them has a group predicate then
  both become group predicates.
-/
def or
    (left : Modifier)
    (right : Modifier) : Modifier :=
  if left.having.isEmpty && right.having.isEmpty then
    { predicate := left.predicate.or right.predicate
      joins := left.joins ++ right.joins }
  else
    { joins := left.joins ++ right.joins
      having := left.combined.or right.combined }

/-
  The opposite modifier, with the same joins. If there is a
  group predicate then all of it becomes one.
-/
def negate (modifier : Modifier) : Modifier :=
  if modifier.isEmpty then modifier
  else if modifier.having.isEmpty then
    { predicate := modifier.predicate.negate
      joins := modifier.joins }
  else
    { joins := modifier.joins
      having := modifier.combined.negate }

end Modifier

end Relmap
