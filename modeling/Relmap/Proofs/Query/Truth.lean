import Relmap.Query.Resolve

/-
  What predicates and modifiers mean.

  A comparison with null is neither true nor false, so truth
  has three values, with the conjunction, disjunction and
  negation of strong Kleene logic. The comparisons of an
  expression are taken as given. A predicate that constrains
  nothing has no truth value at all, and a combination skips
  it.

  Main declarations:
    * `Truth`
    * `Criterion.truth`
    * `Modifier.truth?`
    * `Modifier.truth?_combine`
    * `Modifier.truth?_negate`
-/

------------------------------------------------------------
-- Three Truth Values
------------------------------------------------------------

namespace Relmap

/- The truth values of a logic with null. -/
inductive Truth where
  | no
  | unknown
  | yes
  deriving DecidableEq

namespace Truth

/- The truth value of a constant. -/
def ofBool (value : Bool) : Truth :=
  if value then .yes else .no

/- Conjunction: the lesser of two truth values. -/
def both : Truth → Truth → Truth
  | .no, _ => .no
  | _, .no => .no
  | .yes, .yes => .yes
  | _, _ => .unknown

/- Disjunction: the greater of two truth values. -/
def either : Truth → Truth → Truth
  | .yes, _ => .yes
  | _, .yes => .yes
  | .no, .no => .no
  | _, _ => .unknown

/- Negation, which leaves the unknown unknown. -/
def opposite : Truth → Truth
  | .no => .yes
  | .unknown => .unknown
  | .yes => .no

instance : Std.Associative both where
  assoc x y z := by cases x <;> cases y <;> cases z <;> rfl

instance : Std.Commutative both where
  comm x y := by cases x <;> cases y <;> rfl

end Truth

/- How the truth values of the parts of a node combine. -/
def JoinType.connective : JoinType → Truth → Truth → Truth
  | .and => Truth.both
  | .or => Truth.either

end Relmap

------------------------------------------------------------
-- Truth Of Expressions
------------------------------------------------------------

namespace Relmap

/-
  The truth value of an expression under an interpretation
  of its comparisons.
-/
def Criterion.truth
    (comparisons : Criterion → Truth) : Criterion → Truth
  | .literal value => .ofBool value
  | .and left right =>
      (left.truth comparisons).both (right.truth comparisons)
  | .or left right =>
      (left.truth comparisons).either
        (right.truth comparisons)
  | .not inner => (inner.truth comparisons).opposite
  | comparison => comparisons comparison

namespace Predicate

/- The truth value of a predicate that is not empty. -/
def truth?
    (comparisons : Criterion → Truth)
    (predicate : Predicate) : Option Truth :=
  predicate.criterion?.map (Criterion.truth comparisons)

variable (comparisons : Criterion → Truth)

/- A conjunction of predicates skips an empty one. -/
theorem truth?_and (left right : Predicate) :
    (left.and right).truth? comparisons =
      Option.merge Truth.both
        (left.truth? comparisons)
        (right.truth? comparisons) := by
  cases left <;> cases right <;> rfl

/- A disjunction of predicates skips an empty one. -/
theorem truth?_or (left right : Predicate) :
    (left.or right).truth? comparisons =
      Option.merge Truth.either
        (left.truth? comparisons)
        (right.truth? comparisons) := by
  cases left <;> cases right <;> rfl

/- An empty predicate stays empty when negated. -/
theorem truth?_negate (predicate : Predicate) :
    predicate.negate.truth? comparisons =
      (predicate.truth? comparisons).map Truth.opposite := by
  cases predicate <;> rfl

/- Exactly the empty predicate has no truth value. -/
theorem truth?_eq_none_iff (predicate : Predicate) :
    predicate.truth? comparisons = none ↔
      predicate.isEmpty = true := by
  cases predicate <;> simp [truth?, criterion?, isEmpty]

end Predicate

end Relmap

------------------------------------------------------------
-- Truth Of Modifiers
------------------------------------------------------------

namespace Relmap

namespace Modifier

/-
  The truth value of a modifier: of its row predicate and
  its group predicate together, of the one that is not empty,
  or none if it constrains nothing.
-/
def truth?
    (comparisons : Criterion → Truth)
    (modifier : Modifier) : Option Truth :=
  Option.merge Truth.both
    (modifier.predicate.truth? comparisons)
    (modifier.having.truth? comparisons)

variable (comparisons : Criterion → Truth)

@[simp] theorem truth?_none :
    none.truth? comparisons = Option.none := rfl

/- Both predicates as one mean what they mean together. -/
theorem truth?_combined (modifier : Modifier) :
    modifier.combined.truth? comparisons =
      modifier.truth? comparisons :=
  Predicate.truth?_and comparisons _ _

/- Without a group predicate the row predicate is it all. -/
theorem truth?_of_having_isEmpty
    {modifier : Modifier}
    (hHaving : modifier.having.isEmpty = true) :
    modifier.truth? comparisons =
      modifier.predicate.truth? comparisons := by
  have hNone :=
    (Predicate.truth?_eq_none_iff comparisons
      modifier.having).mpr hHaving
  rw [truth?, hNone, Option.merge_none_right]

/- Both modifiers hold if all four predicates do. -/
theorem truth?_and (left right : Modifier) :
    (left.and right).truth? comparisons =
      Option.merge Truth.both
        (left.truth? comparisons)
        (right.truth? comparisons) := by
  simp only [truth?, and, Predicate.truth?_and]
  ac_rfl

/-
  Either modifier holds, also where the row predicates move
  to the groups.
-/
theorem truth?_or (left right : Modifier) :
    (left.or right).truth? comparisons =
      Option.merge Truth.either
        (left.truth? comparisons)
        (right.truth? comparisons) := by
  unfold or
  by_cases hEmpty :
      (left.having.isEmpty && right.having.isEmpty) = true
  · rw [if_pos hEmpty]
    rw [Bool.and_eq_true] at hEmpty
    rw [truth?_of_having_isEmpty comparisons hEmpty.1,
      truth?_of_having_isEmpty comparisons hEmpty.2,
      ← Predicate.truth?_or]
    exact Option.merge_none_right
  · rw [if_neg hEmpty, ← truth?_combined comparisons left,
      ← truth?_combined comparisons right,
      ← Predicate.truth?_or]
    exact Option.merge_none_left

/- Modifiers combine as their truth values do. -/
theorem truth?_combine
    (joinType : JoinType)
    (left right : Modifier) :
    (joinType.combine left right).truth? comparisons =
      Option.merge joinType.connective
        (left.truth? comparisons)
        (right.truth? comparisons) := by
  cases joinType with
  | and => exact truth?_and comparisons left right
  | or => exact truth?_or comparisons left right

/-
  The opposite modifier has the opposite truth value, and
  one that constrains nothing still does not.
-/
theorem truth?_negate (modifier : Modifier) :
    modifier.negate.truth? comparisons =
      (modifier.truth? comparisons).map Truth.opposite := by
  unfold negate
  by_cases hEmpty : modifier.isEmpty = true
  · rw [if_pos hEmpty]
    rw [isEmpty, Bool.and_eq_true] at hEmpty
    rw [truth?_of_having_isEmpty comparisons hEmpty.2,
      (Predicate.truth?_eq_none_iff comparisons _).mpr
        hEmpty.1]
    rfl
  · rw [if_neg hEmpty]
    by_cases hHaving : modifier.having.isEmpty = true
    · rw [if_pos hHaving,
        truth?_of_having_isEmpty comparisons hHaving,
        ← Predicate.truth?_negate]
      exact Option.merge_none_right
    · rw [if_neg hHaving,
        ← truth?_combined comparisons modifier,
        ← Predicate.truth?_negate]
      exact Option.merge_none_left

/- Negation by a flag. -/
theorem truth?_negateIf
    (negated : Bool)
    (modifier : Modifier) :
    (FilterTree.negateIf negated modifier).truth?
        comparisons =
      if negated then
        (modifier.truth? comparisons).map Truth.opposite
      else modifier.truth? comparisons := by
  cases negated with
  | false => rfl
  | true => exact truth?_negate comparisons modifier

end Modifier

end Relmap

------------------------------------------------------------
-- Joins Of Modifiers
------------------------------------------------------------

namespace Relmap

namespace Modifier

/- A combination has the joins of both sides in order. -/
@[simp] theorem joins_combine
    (joinType : JoinType)
    (left right : Modifier) :
    (joinType.combine left right).joins =
      left.joins ++ right.joins := by
  cases joinType with
  | and => rfl
  | or =>
      change (left.or right).joins = _
      unfold or
      split <;> rfl

/- Negation keeps the joins. -/
@[simp] theorem joins_negate (modifier : Modifier) :
    modifier.negate.joins = modifier.joins := by
  unfold negate
  split
  · rfl
  · split <;> rfl

@[simp] theorem joins_negateIf
    (negated : Bool)
    (modifier : Modifier) :
    (FilterTree.negateIf negated modifier).joins =
      modifier.joins := by
  cases negated with
  | false => rfl
  | true => exact joins_negate modifier

/- The modifier that adds nothing is a unit on the left. -/
@[simp] theorem none_and (modifier : Modifier) :
    none.and modifier = modifier := by
  cases modifier
  rfl

/- Joins in front of a modifier add nothing else. -/
theorem ofJoins_and
    (joins : List Join)
    (modifier : Modifier) :
    (ofJoins joins).and modifier =
      { modifier with joins := joins ++ modifier.joins } :=
  rfl

end Modifier

end Relmap
