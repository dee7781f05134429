import Relmap.Proofs.Outcome
import Relmap.Proofs.Query.Truth

/-
  What occurs in an expression: the terms that it compares
  and everything inside them.

  An expression has an aggregate exactly if an aggregate
  function is applied anywhere in it. A lookup compares its
  term with literals, so apart from those nothing occurs in
  its expression that does not occur in the term.
  Combinations and negations of modifiers bring nothing new
  in, and they move nothing from groups to rows.

  Main declarations:
    * `Term.subterms`
    * `Term.AreOver`
    * `Criterion.subterms`
    * `Criterion.hasAggregate_eq_true_iff`
    * `Lookup.isOperand_of_criterion`
    * `Modifier.subterms`
    * `Modifier.subterms_combine_subset`
-/

------------------------------------------------------------
-- Terms
------------------------------------------------------------

namespace Relmap

namespace Term

/- The term and all terms inside it. -/
def subterms : Term → List Term
  | .column found => [.column found]
  | .value literal => [.value literal]
  | .aggregate function none distinct =>
      [.aggregate function none distinct]
  | .aggregate function (some argument) distinct =>
      .aggregate function (some argument) distinct ::
        argument.subterms
  | .upper term => .upper term :: term.subterms

/- An aggregate function is applied. -/
def IsApplication (term : Term) : Prop :=
  ∃ function argument distinct,
    term = .aggregate function argument distinct

/- A term is evaluated over groups if it applies one. -/
theorem isAggregate_eq_true_iff :
    ∀ term : Term,
      term.isAggregate = true ↔
        ∃ inner ∈ term.subterms, inner.IsApplication
  | .column found => by
      simp [isAggregate, subterms, IsApplication]
  | .value literal => by
      simp [isAggregate, subterms, IsApplication]
  | .aggregate function argument distinct => by
      have hSelf :
          .aggregate function argument distinct ∈
            subterms
              (.aggregate function argument distinct) := by
        cases argument <;> simp [subterms]
      simp only [isAggregate, true_iff]
      exact ⟨_, hSelf, function, argument, distinct, rfl⟩
  | .upper term => by
      rw [isAggregate, isAggregate_eq_true_iff term]
      simp [subterms, IsApplication]

/-
  Every column among some terms is qualified with one of
  some tables.
-/
def AreOver
    (tables : List String)
    (terms : List Term) : Prop :=
  ∀ column, .column column ∈ terms →
    ∃ table ∈ tables, column.table = some table

/- More tables allow as much, and fewer terms need less. -/
theorem AreOver.mono
    {tables others : List String}
    {terms parts : List Term}
    (hOver : AreOver tables terms)
    (hTables : tables ⊆ others)
    (hTerms : parts ⊆ terms) :
    AreOver others parts := by
  intro column hColumn
  rcases hOver column (hTerms hColumn) with
    ⟨table, hTable, hQualified⟩
  exact ⟨table, hTables hTable, hQualified⟩

theorem areOver_append_iff
    {tables : List String}
    {left right : List Term} :
    AreOver tables (left ++ right) ↔
      AreOver tables left ∧ AreOver tables right := by
  simp only [AreOver, List.mem_append, or_imp, forall_and]

/- A qualified column is one of its table. -/
theorem areOver_qualified
    {table name : String}
    {tables : List String}
    (hTable : table ∈ tables) :
    AreOver tables (qualified table name).subterms := by
  intro column hColumn
  rw [qualified, subterms, List.mem_singleton] at hColumn
  cases hColumn
  exact ⟨table, hTable, rfl⟩

end Term

end Relmap

------------------------------------------------------------
-- Expressions
------------------------------------------------------------

namespace Relmap

namespace Criterion

/- All terms that occur in an expression. -/
def subterms : Criterion → List Term
  | .compare left _ right => left.subterms ++ right.subterms
  | .member term _ _ => term.subterms
  | .between term _ _ => term.subterms
  | .isNull term _ => term.subterms
  | .like term pattern => term.subterms ++ pattern.subterms
  | .literal _ => []
  | .and left right => left.subterms ++ right.subterms
  | .or left right => left.subterms ++ right.subterms
  | .not inner => inner.subterms

/- An expression has an aggregate if it applies one. -/
theorem hasAggregate_eq_true_iff
    (criterion : Criterion) :
    criterion.hasAggregate = true ↔
      ∃ inner ∈ criterion.subterms, inner.IsApplication := by
  induction criterion with
  | literal value => simp [hasAggregate, subterms]
  | not inner ih => exact ih
  | and left right leftIH rightIH
  | or left right leftIH rightIH =>
      simp [hasAggregate, subterms, leftIH, rightIH, or_and_right,
        exists_or]
  | compare left op right
  | like left right =>
      simp [hasAggregate, subterms,
        Term.isAggregate_eq_true_iff, or_and_right, exists_or]
  | member term
  | between term
  | isNull term => exact term.isAggregate_eq_true_iff

variable {term : Term}

@[simp] theorem subterms_isNull :
    term.isNull.subterms = term.subterms := rfl

@[simp] theorem subterms_notNull :
    term.notNull.subterms = term.subterms := rfl

@[simp] theorem subterms_isIn {values : List Value} :
    (term.isIn values).subterms = term.subterms := rfl

@[simp] theorem subterms_notIn {values : List Value} :
    (term.notIn values).subterms = term.subterms := rfl

@[simp] theorem subterms_compare
    {op : CompareOp}
    {value : Value} :
    (term.compare op value).subterms =
      term.subterms ++ [.value value] := rfl

@[simp] theorem subterms_eqTerm {other : Term} :
    (term.eqTerm other).subterms =
      term.subterms ++ other.subterms := rfl

@[simp] theorem subterms_like {pattern : Term} :
    (term.like pattern).subterms =
      term.subterms ++ pattern.subterms := rfl

end Criterion

end Relmap

------------------------------------------------------------
-- Lookups
------------------------------------------------------------

namespace Relmap

namespace Lookup

variable {lookup : Lookup}
variable {term : Term}
variable {value : Value}
variable {criterion : Criterion}

/-
  A term that occurs in a comparison with a literal: it
  occurs in the compared term, it is that term in upper
  case, or it is a literal, in upper case or as it is.
-/
def IsOperand
    (term : Term)
    (inner : Term) : Prop :=
  inner ∈ term.subterms ∨ inner = .upper term ∨
    ∃ literal, inner = .value literal ∨
      inner = .upper (.value literal)

/- Nothing else occurs in the expression of a lookup. -/
theorem isOperand_of_criterion
    (hCriterion :
      lookup.criterion term value = .ok criterion)
    {inner : Term}
    (hInner : inner ∈ criterion.subterms) :
    IsOperand term inner := by
  have hNull {wanted : Bool} :
      (nullTest term wanted).subterms = term.subterms := by
    cases wanted <;> rfl
  unfold IsOperand
  cases lookup with
  | exact | differs =>
      cases hCriterion
      split at hInner <;>
        simp [Criterion.subterms, Term.eq, Term.ne] at hInner <;>
        tauto
  | isIn | notIn =>
      rcases Except.bind_eq_ok_iff.mp hCriterion with
        ⟨values, _, hValues⟩
      cases hValues
      split at hInner
      · simp [Criterion.subterms] at hInner
      · simp [Criterion.subterms] at hInner
        exact .inl hInner
  | range =>
      rcases Except.bind_eq_ok_iff.mp hCriterion with
        ⟨values, _, hValues⟩
      split at hValues
      · cases hValues
        exact .inl hInner
      · cases hValues
  | isNull | notIsNull =>
      rcases Except.bind_eq_ok_iff.mp hCriterion with
        ⟨wanted, _, hWanted⟩
      cases hWanted
      rw [hNull] at hInner
      exact .inl hInner
  | icontains | istartsWith | iendsWith | iexact =>
      cases hCriterion
      simp [Term.subterms, pattern] at hInner
      rcases hInner with rfl | hTerm | rfl | rfl
      · exact .inr (.inl rfl)
      · exact .inl hTerm
      · exact .inr (.inr ⟨_, .inr rfl⟩)
      · exact .inr (.inr ⟨_, .inl rfl⟩)
  | _ =>
      cases hCriterion
      simp [Term.subterms, pattern] at hInner
      rcases hInner with hTerm | rfl
      · exact .inl hTerm
      · exact .inr (.inr ⟨_, .inl rfl⟩)

/- So the expression is over the tables of the term. -/
theorem areOver_of_criterion
    (hCriterion :
      lookup.criterion term value = .ok criterion)
    {tables : List String}
    (hTerm : Term.AreOver tables term.subterms) :
    Term.AreOver tables criterion.subterms := by
  intro column hColumn
  rcases isOperand_of_criterion hCriterion hColumn with
    hInner | hUpper | ⟨literal, hValue | hUpper⟩
  · exact hTerm column hInner
  · cases hUpper
  · cases hValue
  · cases hUpper

/- And it has an aggregate only if the term is one. -/
theorem hasAggregate_of_criterion
    (hCriterion :
      lookup.criterion term value = .ok criterion)
    (hTerm : term.isAggregate = false) :
    criterion.hasAggregate = false := by
  rw [← Bool.not_eq_true] at hTerm ⊢
  rw [Term.isAggregate_eq_true_iff] at hTerm
  rw [Criterion.hasAggregate_eq_true_iff]
  rintro ⟨inner, hInner, hApplied⟩
  rcases isOperand_of_criterion hCriterion hInner with
    hOccurs | rfl | ⟨literal, rfl | rfl⟩
  · exact hTerm ⟨inner, hOccurs, hApplied⟩
  · rcases hApplied with ⟨_, _, _, hApplied⟩
    cases hApplied
  · rcases hApplied with ⟨_, _, _, hApplied⟩
    cases hApplied
  · rcases hApplied with ⟨_, _, _, hApplied⟩
    cases hApplied

end Lookup

end Relmap

------------------------------------------------------------
-- Predicates
------------------------------------------------------------

namespace Relmap

namespace Predicate

/- All terms that occur in a predicate. -/
def subterms : Predicate → List Term
  | .empty => []
  | .expr criterion => criterion.subterms

@[simp] theorem subterms_empty : empty.subterms = [] := rfl

/- A predicate has an aggregate if it applies one. -/
theorem hasAggregate_eq_true_iff
    (predicate : Predicate) :
    predicate.hasAggregate = true ↔
      ∃ inner ∈ predicate.subterms, inner.IsApplication := by
  cases predicate with
  | empty => simp [hasAggregate, subterms]
  | expr criterion =>
      exact criterion.hasAggregate_eq_true_iff

@[simp] theorem subterms_and (left right : Predicate) :
    (left.and right).subterms =
      left.subterms ++ right.subterms := by
  cases left <;> cases right <;>
    simp [and, subterms, Criterion.subterms]

@[simp] theorem subterms_or (left right : Predicate) :
    (left.or right).subterms =
      left.subterms ++ right.subterms := by
  cases left <;> cases right <;>
    simp [or, subterms, Criterion.subterms]

@[simp] theorem subterms_negate (predicate : Predicate) :
    predicate.negate.subterms = predicate.subterms := by
  cases predicate <;> rfl

end Predicate

end Relmap

------------------------------------------------------------
-- Modifiers
------------------------------------------------------------

namespace Relmap

namespace Modifier

/- All terms that occur in either predicate. -/
def subterms (modifier : Modifier) : List Term :=
  modifier.predicate.subterms ++ modifier.having.subterms

@[simp] theorem subterms_withPredicate
    (joins : List Join)
    (criterion : Criterion) :
    ((ofJoins joins).withPredicate criterion).subterms =
      criterion.subterms :=
  List.append_nil _

@[simp] theorem subterms_withHaving
    (joins : List Join)
    (criterion : Criterion) :
    ((ofJoins joins).withHaving criterion).subterms =
      criterion.subterms :=
  List.nil_append _

@[simp] theorem subterms_combined (modifier : Modifier) :
    modifier.combined.subterms = modifier.subterms :=
  Predicate.subterms_and _ _

/- A combination has only what occurs on either side. -/
theorem subterms_combine_subset
    (joinType : JoinType)
    (left right : Modifier) :
    (joinType.combine left right).subterms ⊆
      left.subterms ++ right.subterms := by
  intro inner hInner
  cases joinType with
  | and =>
      simp [JoinType.combine, and, subterms] at hInner ⊢
      tauto
  | or =>
      simp only [JoinType.combine, or] at hInner
      split at hInner
      · simp [subterms] at hInner ⊢
        tauto
      · simpa [subterms] using hInner

/- So does a negation. -/
theorem subterms_negate_subset (modifier : Modifier) :
    modifier.negate.subterms ⊆ modifier.subterms := by
  intro inner hInner
  unfold negate at hInner
  split at hInner
  · exact hInner
  · split at hInner
    · simp [subterms] at hInner ⊢
      exact .inl hInner
    · simpa [subterms] using hInner

/- Nothing moves from the groups to the rows. -/
theorem predicate_subterms_combine_subset
    (joinType : JoinType)
    (left right : Modifier) :
    (joinType.combine left right).predicate.subterms ⊆
      left.predicate.subterms ++
        right.predicate.subterms := by
  cases joinType with
  | and => simp [JoinType.combine, and]
  | or =>
      simp only [JoinType.combine, or]
      split <;> simp

theorem predicate_subterms_negate_subset
    (modifier : Modifier) :
    modifier.negate.predicate.subterms ⊆
      modifier.predicate.subterms := by
  unfold negate
  split
  · exact List.Subset.refl _
  · split <;> simp

end Modifier

end Relmap
