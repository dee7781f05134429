import Relmap.Proofs.Query.Route
import Relmap.Proofs.Query.Subterms

/-
  Aggregates constrain groups and never rows.

  A single constraint compares an aggregate exactly if its
  key ends at a custom filter on one, and then it has a group
  predicate instead of a row predicate. Combinations have a
  group predicate if one side has, and negations if the
  negated modifier has. No aggregate gets back to the rows.

  Main declarations:
    * `Context.EndsAtAggregate`
    * `Modifier.having_isEmpty_combine`
    * `Modifier.having_isEmpty_negate`
    * `FilterTree.aggregates_of_resolve`
-/

------------------------------------------------------------
-- Group Predicates
------------------------------------------------------------

namespace Relmap

namespace Predicate

@[simp] theorem isEmpty_and (left right : Predicate) :
    (left.and right).isEmpty =
      (left.isEmpty && right.isEmpty) := by
  cases left <;> cases right <;> rfl

@[simp] theorem isEmpty_or (left right : Predicate) :
    (left.or right).isEmpty =
      (left.isEmpty && right.isEmpty) := by
  cases left <;> cases right <;> rfl

@[simp] theorem isEmpty_negate (predicate : Predicate) :
    predicate.negate.isEmpty = predicate.isEmpty := by
  cases predicate <;> rfl

/- Where all occurs in what has no aggregate there is none. -/
theorem hasAggregate_of_subset
    {predicate : Predicate}
    {terms : List Term}
    (hSubset : predicate.subterms ⊆ terms)
    (hTerms : ∀ inner ∈ terms, ¬ inner.IsApplication) :
    predicate.hasAggregate = false := by
  rw [← Bool.not_eq_true, hasAggregate_eq_true_iff]
  rintro ⟨inner, hInner, hApplied⟩
  exact hTerms inner (hSubset hInner) hApplied

/- No aggregate function is applied at any depth. -/
theorem not_isApplication
    {predicate : Predicate}
    (hNone : predicate.hasAggregate = false)
    {inner : Term}
    (hInner : inner ∈ predicate.subterms) :
    ¬ inner.IsApplication := by
  intro hApplied
  have hSome :=
    predicate.hasAggregate_eq_true_iff.mpr
      ⟨inner, hInner, hApplied⟩
  rw [hNone] at hSome
  cases hSome

end Predicate

namespace Modifier

/- A combination is over groups if one side is. -/
theorem having_isEmpty_combine
    (joinType : JoinType)
    (left right : Modifier) :
    (joinType.combine left right).having.isEmpty =
      (left.having.isEmpty && right.having.isEmpty) := by
  cases joinType with
  | and => exact Predicate.isEmpty_and _ _
  | or =>
      simp only [JoinType.combine, or]
      by_cases hRows :
          (left.having.isEmpty && right.having.isEmpty) = true
      · rw [if_pos hRows, hRows]
        rfl
      · rw [if_neg hRows]
        simp only [combined, Predicate.isEmpty_or,
          Predicate.isEmpty_and]
        grind

/- A negation is over groups if the negated modifier is. -/
theorem having_isEmpty_negate (modifier : Modifier) :
    modifier.negate.having.isEmpty =
      modifier.having.isEmpty := by
  unfold negate
  split
  · rfl
  · split
    · rename_i hRows
      rw [hRows]
      rfl
    · simp only [combined, Predicate.isEmpty_negate,
        Predicate.isEmpty_and]
      grind

end Modifier

end Relmap

------------------------------------------------------------
-- Constraints
------------------------------------------------------------

namespace Relmap

/- An aggregate is what a computed column over groups is. -/
theorem Computed.isAggregate_of_resolve
    {catalog : Catalog}
    {model : Model}
    {computed : Computed}
    {resolved : ResolvedComputed}
    (hResolved :
      computed.resolve catalog model = .ok resolved) :
    resolved.term.isAggregate = computed.isAggregate := by
  cases computed with
  | column field =>
      rcases Except.bind_eq_ok_iff.mp hResolved with
        ⟨term, hTerm, hResolved⟩
      cases hResolved
      unfold fieldTerm at hTerm
      split at hTerm
      · cases hTerm
        rfl
      · cases hTerm
  | aggregate function field distinct =>
      unfold resolve at hResolved
      dsimp only at hResolved
      split at hResolved
      · cases hResolved
        rfl
      · split at hResolved
        · simp only [Except.bind_eq_ok_iff] at hResolved
          rcases hResolved with
            ⟨_, _, _, _, _, _, hResolved⟩
          cases hResolved
          rfl
        · simp only [Except.bind_eq_ok_iff] at hResolved
          rcases hResolved with ⟨_, _, hResolved⟩
          cases hResolved
          rfl

namespace Context

/-
  The key ends, at once or after hops, at a custom filter
  whose computed column is an aggregate.
-/
def EndsAtAggregate
    (context : Context)
    (model : Model)
    (key : String) : Prop :=
  ∃ hops reached left filter computed,
    context.Reaches model key hops reached left ∧
      context.custom.get? left = some filter ∧
      context.computed.lookup filter.computed =
        some computed ∧
      computed.isAggregate = true

variable {context : Context}
variable {model : Model}
variable {key : String}

/- A route decides it. -/
theorem Reaches.endsAtAggregate_iff
    {hops : List (Model × Relation)}
    {reached : Model}
    {left : String}
    (hReaches : context.Reaches model key hops reached left) :
    context.EndsAtAggregate model key ↔
      ∃ filter computed,
        context.custom.get? left = some filter ∧
          context.computed.lookup filter.computed =
            some computed ∧
          computed.isAggregate = true := by
  constructor
  · rintro ⟨_, _, _, filter, computed, hOther, hFilter⟩
    rcases hReaches.unique hOther with ⟨rfl, rfl, rfl⟩
    exact ⟨filter, computed, hFilter⟩
  · rintro ⟨filter, computed, hFilter⟩
    exact ⟨_, _, _, filter, computed, hReaches, hFilter⟩

/-
  A constraint has no aggregate in its row predicate, and a
  group predicate if its key ends at an aggregate.
-/
theorem aggregates_of_resolveKey
    {value : FilterValue}
    {part : Modifier}
    (hPart : context.resolveKey model key value = .ok part) :
    part.predicate.hasAggregate = false ∧
      (part.having.isEmpty = false ↔
        context.EndsAtAggregate model key) := by
  rcases exists_route_of_resolveWithin hPart with
    ⟨hops, reached, left, joins, last, hReaches, _, hLast,
     rfl⟩
  rw [hReaches.endsAtAggregate_iff]
  cases ends_of_resolveHere hLast with
  | direct hCustom _ _ hCriterion =>
      refine
        ⟨Lookup.hasAggregate_of_criterion hCriterion rfl, ?_⟩
      simp [hCustom, Modifier.withPredicate, Modifier.ofJoins,
        Predicate.isEmpty]
  | @custom _ computed _ _ hCustom hComputed hResolved
      hCriterion =>
      have hKind := Computed.isAggregate_of_resolve hResolved
      cases hAggregate : computed.isAggregate with
      | true =>
          simp [hKind, hAggregate, hCustom, hComputed,
            Modifier.withHaving, Modifier.ofJoins,
            Predicate.isEmpty, Predicate.hasAggregate]
      | false =>
          rw [hAggregate] at hKind
          have hRow :=
            Lookup.hasAggregate_of_criterion hCriterion hKind
          simp [hKind, hAggregate, hCustom, hComputed, hRow,
            Modifier.withPredicate, Modifier.ofJoins,
            Predicate.isEmpty, Predicate.hasAggregate]

end Context

end Relmap

------------------------------------------------------------
-- Trees
------------------------------------------------------------

namespace Relmap

/-
  Rows are constrained without aggregates, and groups only
  if one of the constraints ends at an aggregate.
-/
private structure Modifier.IsSplit
    (context : Context)
    (model : Model)
    (entries : List Constraint)
    (modifier : Modifier) : Prop where
  rows : modifier.predicate.hasAggregate = false
  groups :
    modifier.having.isEmpty = false ↔
      ∃ entry ∈ entries, context.EndsAtAggregate model entry.1

namespace FilterTree

variable {context : Context}
variable {model : Model}

/- Keys are split, and so is whatever they are parts of. -/
private theorem isKept_isSplit :
    IsKept context model (Modifier.IsSplit context model) where
  none := ⟨rfl, by simp [Modifier.none, Predicate.isEmpty]⟩
  key := by
    intro entry part hPart
    rcases Context.aggregates_of_resolveKey hPart with
      ⟨hRows, hGroups⟩
    exact ⟨hRows, by simpa using hGroups⟩
  combine := by
    intro joinType first second left right hLeft hRight
    constructor
    · apply Predicate.hasAggregate_of_subset
        (Modifier.predicate_subterms_combine_subset joinType
          left right)
      intro inner hInner
      rcases List.mem_append.mp hInner with hInner | hInner
      · exact Predicate.not_isApplication hLeft.rows hInner
      · exact Predicate.not_isApplication hRight.rows hInner
    · rw [Modifier.having_isEmpty_combine,
        Bool.and_eq_false_iff, hLeft.groups, hRight.groups]
      simp only [List.mem_append, or_and_right, exists_or]
  negate := by
    intro entries modifier hModifier
    constructor
    · apply Predicate.hasAggregate_of_subset
        modifier.predicate_subterms_negate_subset
      intro inner hInner
      exact Predicate.not_isApplication hModifier.rows hInner
    · rw [Modifier.having_isEmpty_negate]
      exact hModifier.groups

/-
  However a tree was built: if it resolves then no aggregate
  function is applied in the row predicate, at any depth,
  and there is a group predicate if and only if some
  constraint ends at a custom filter on an aggregate.
-/
theorem aggregates_of_resolve
    {tree : FilterTree}
    (hBuilt : tree.Built)
    {modifier : Modifier}
    (hResolve : tree.resolve context model = .ok modifier) :
    modifier.predicate.hasAggregate = false ∧
    (∀ function argument distinct,
      .aggregate function argument distinct ∉
        modifier.predicate.subterms) ∧
    (modifier.having.isEmpty = false ↔
      ∃ entry ∈ tree.allConstraints,
        context.EndsAtAggregate model entry.1) := by
  have hSplit := holds_of_resolve isKept_isSplit hResolve
  rw [hBuilt.wellFormed.resolved_eq] at hSplit
  refine ⟨hSplit.rows, ?_, hSplit.groups⟩
  intro function argument distinct hInner
  exact Predicate.not_isApplication hSplit.rows hInner
    ⟨function, argument, distinct, rfl⟩

/- Authors whose books are counted. -/
private def countingAuthor : Model :=
  { name := "Author"
    table := "author"
    fields := [
      .keyOfType "id" (.named FieldType.intName),
      .ofType "name" (.named FieldType.textName)]
    relations := [.backward "books" "Book" "author_id"] }

private def countingBook : Model :=
  { name := "Book"
    table := "book"
    fields := [
      .keyOfType "id" (.named FieldType.intName),
      .ofType "title" (.named FieldType.textName),
      .ofType "author_id" (.named FieldType.intName)]
    relations := [.toOne "author" "Author"] }

private def countingContext : Context :=
  { catalog := ⟨[countingAuthor, countingBook]⟩
    computed := [("number", .aggregate .count "books" false)]
    custom := CustomFilters.ofNames ["number"] }

/- Neither a title nor many books by the same author. -/
private def countingTree : FilterTree :=
  ((constraint "title" (.literal (.string "x"))).or
    (constraint "author__number__gt"
      (.literal (.int64 2)))).negate

/- An aggregate behind a hop, under OR and NOT. -/
theorem aggregates_of_resolve_behind_hop :
    ∃ modifier,
      countingTree.resolve countingContext countingBook =
        .ok modifier ∧
      modifier.having.hasAggregate = true ∧
      modifier.predicate.hasAggregate = false ∧
      (∀ function argument distinct,
        .aggregate function argument distinct ∉
          modifier.predicate.subterms) ∧
      ∃ entry ∈ countingTree.allConstraints,
        countingContext.EndsAtAggregate countingBook
          entry.1 := by
  have hBuilt : countingTree.Built :=
    .negate (.or (.constraint _ _) (.constraint _ _))
  have hResolve :
      countingTree.resolve countingContext countingBook =
        .ok _ := rfl
  rcases aggregates_of_resolve hBuilt hResolve with
    ⟨hRows, hNone, hGroups⟩
  exact ⟨_, hResolve, rfl, hRows, hNone, hGroups.mp rfl⟩

end FilterTree

end Relmap
