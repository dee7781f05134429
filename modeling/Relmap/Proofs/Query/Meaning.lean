import Relmap.Proofs.Query.Built
import Relmap.Proofs.Query.Truth

/-
  Resolution keeps the meaning of a filter tree.

  The truth value of a tree is computed from those of its
  constraints: a node combines its parts by its join type,
  and negation applies to the whole. A tree that resolves
  has a modifier with that truth value, wherever predicates
  were moved to, and with the joins of all constraints in
  order.

  Main declarations:
    * `FilterTree.truth?`
    * `FilterTree.allConstraints`
    * `FilterTree.resolveConstraints_eq_ok_iff`
    * `FilterTree.resolveChildren_eq_ok_iff`
    * `FilterTree.truth?_and_joins_of_resolve`
-/

------------------------------------------------------------
-- Truth Of Trees
------------------------------------------------------------

namespace Relmap

/-
  The truth values of the parts of a node as one, starting
  from no constraint at all.
-/
def JoinType.gather
    (joinType : JoinType)
    (parts : List (Option Truth)) : Option Truth :=
  parts.foldl (Option.merge joinType.connective) none

namespace FilterTree

mutual

/-
  The truth value of a tree, given those of constraints. The
  parts of a node are its constraints and its children.
-/
def truth?
    (given : Constraint → Option Truth) :
    FilterTree → Option Truth
  | ⟨children, constraints, joinType, negated, _⟩ =>
      let together :=
        joinType.gather
          (constraints.map given ++ childTruths given children)
      if negated then together.map Truth.opposite
      else together

/- The truth values of children in order. -/
def childTruths
    (given : Constraint → Option Truth) :
    List FilterTree → List (Option Truth)
  | [] => []
  | child :: rest =>
      truth? given child :: childTruths given rest

end

mutual

/- All constraints of a tree in order. -/
def allConstraints : FilterTree → List Constraint
  | ⟨children, constraints, _, _, _⟩ =>
      constraints ++ childConstraints children

/- All constraints of some trees in order. -/
def childConstraints : List FilterTree → List Constraint
  | [] => []
  | child :: rest =>
      allConstraints child ++ childConstraints rest

end

end FilterTree

end Relmap

------------------------------------------------------------
-- Resolution Of Nodes
------------------------------------------------------------

namespace Relmap

namespace FilterTree

variable {context : Context} {model : Model}

/-
  Constraints resolve exactly if each of them does, and
  then their modifiers are combined from the left.
-/
theorem resolveConstraints_eq_ok_iff
    {joinType : JoinType}
    {before modifier : Modifier}
    {constraints : List Constraint} :
    resolveConstraints context model joinType before
        constraints = .ok modifier ↔
      ∃ parts,
        List.Forall₂
          (fun entry part =>
            context.resolveKey model entry.1 entry.2 =
              .ok part)
          constraints parts ∧
        parts.foldl joinType.combine before = modifier := by
  induction constraints generalizing before with
  | nil => simp [resolveConstraints]
  | cons entry rest ih =>
      simp only [resolveConstraints, Except.bind_eq_ok_iff,
        ih, List.forall₂_cons_left_iff]
      constructor
      · rintro ⟨part, hPart, parts, hParts, rfl⟩
        exact ⟨part :: parts, ⟨part, parts, hPart, hParts,
          rfl⟩, rfl⟩
      · rintro ⟨_, ⟨part, parts, hPart, hParts, rfl⟩, rfl⟩
        exact ⟨part, hPart, parts, hParts, rfl⟩

/-
  Children resolve exactly if each of them does, and then
  their modifiers are combined from the left.
-/
theorem resolveChildren_eq_ok_iff
    {joinType : JoinType}
    {before modifier : Modifier}
    {children : List FilterTree} :
    resolveChildren context model joinType before
        children = .ok modifier ↔
      ∃ parts,
        List.Forall₂
          (fun child part =>
            resolve context model child = .ok part)
          children parts ∧
        parts.foldl joinType.combine before = modifier := by
  induction children generalizing before with
  | nil => simp [resolveChildren]
  | cons child rest ih =>
      simp only [resolveChildren, Except.bind_eq_ok_iff,
        ih, List.forall₂_cons_left_iff]
      constructor
      · rintro ⟨part, hPart, parts, hParts, rfl⟩
        exact ⟨part :: parts, ⟨part, parts, hPart, hParts,
          rfl⟩, rfl⟩
      · rintro ⟨_, ⟨part, parts, hPart, hParts, rfl⟩, rfl⟩
        exact ⟨part, hPart, parts, hParts, rfl⟩

/-
  A node resolves to its combined parts, negated if it is:
  to those of its constraints if it has any.
-/
theorem resolve_node
    (children : List FilterTree)
    (constraints : List Constraint)
    (joinType : JoinType)
    (negated wraps : Bool) :
    resolve context model
        ⟨children, constraints, joinType, negated, wraps⟩ =
      (if constraints.isEmpty then
        resolveChildren context model joinType .none children
      else
        resolveConstraints context model joinType .none
          constraints).map (negateIf negated) := by
  rw [resolve]
  split
  · cases resolveChildren context model joinType .none
      children <;> rfl
  · cases resolveConstraints context model joinType .none
      constraints <;> rfl

/- A tree of one constraint resolves as its key does. -/
theorem resolve_constraint
    (key : String)
    (value : FilterValue) :
    (constraint key value).resolve context model =
      context.resolveKey model key value := by
  rw [constraint, leaf, resolve_node]
  cases hKey : context.resolveKey model key value with
  | error fault =>
      simp [resolveConstraints, hKey, bind, Except.bind,
        Except.map]
  | ok part =>
      have hUnit : JoinType.and.combine .none part = part :=
        Modifier.none_and part
      simp [resolveConstraints, hKey, bind, Except.bind,
        Except.map, hUnit, negateIf]

end FilterTree

end Relmap

------------------------------------------------------------
-- Combination Of Parts
------------------------------------------------------------

namespace Relmap

namespace Modifier

/- Combined modifiers have the combined truth value. -/
theorem truth?_foldl_combine
    (comparisons : Criterion → Truth)
    (joinType : JoinType)
    (before : Modifier)
    (parts : List Modifier) :
    (parts.foldl joinType.combine before).truth?
        comparisons =
      (parts.map (truth? comparisons)).foldl
        (Option.merge joinType.connective)
        (before.truth? comparisons) := by
  induction parts generalizing before with
  | nil => rfl
  | cons part rest ih =>
      rw [List.foldl_cons, ih, truth?_combine, List.map_cons,
        List.foldl_cons]

/- Combined modifiers have the joins of all, in order. -/
theorem joins_foldl_combine
    (joinType : JoinType)
    (before : Modifier)
    (parts : List Modifier) :
    (parts.foldl joinType.combine before).joins =
      before.joins ++ parts.flatMap Modifier.joins := by
  induction parts generalizing before with
  | nil => simp
  | cons part rest ih =>
      rw [List.foldl_cons, ih, joins_combine,
        List.flatMap_cons, List.append_assoc]

end Modifier

end Relmap

------------------------------------------------------------
-- Meaning Of Resolved Trees
------------------------------------------------------------

namespace Relmap

namespace FilterTree

variable {context : Context} {model : Model}

/-
  A modifier says what some constraints say: each resolves
  to its part, the modifier has the truth value computed
  from the parts, and their joins in order.
-/
private structure Says
    (context : Context)
    (model : Model)
    (part : Constraint → Modifier)
    (constraints : List Constraint)
    (truth : (Constraint → Option Truth) → Option Truth)
    (modifier : Modifier) : Prop where
  resolves : ∀ entry ∈ constraints,
    context.resolveKey model entry.1 entry.2 =
      .ok (part entry)
  truth_eq : ∀ comparisons : Criterion → Truth,
    modifier.truth? comparisons =
      truth fun entry => (part entry).truth? comparisons
  joins_eq :
    modifier.joins =
      constraints.flatMap fun entry => (part entry).joins

/- The modifier of a constraint, if it resolves. -/
private def partOf
    (context : Context)
    (model : Model)
    (entry : Constraint) : Modifier :=
  match context.resolveKey model entry.1 entry.2 with
  | .ok part => part
  | .error _ => .none

/- The parts of constraints that resolve are their own. -/
private theorem map_partOf
    {constraints : List Constraint}
    {parts : List Modifier}
    (hParts :
      List.Forall₂
        (fun entry part =>
          context.resolveKey model entry.1 entry.2 =
            .ok part)
        constraints parts) :
    constraints.map (partOf context model) = parts ∧
      ∀ entry ∈ constraints,
        context.resolveKey model entry.1 entry.2 =
          .ok (partOf context model entry) := by
  induction hParts with
  | nil => simp
  | cons hFirst _ ih =>
      constructor
      · rw [List.map_cons, ih.1, partOf, hFirst]
      · intro entry hEntry
        rcases List.mem_cons.mp hEntry with rfl | hEntry
        · rw [partOf, hFirst]
        · exact ih.2 entry hEntry

/- What the children of a node say, child by child. -/
private theorem says_children
    {part : Constraint → Modifier}
    {children : List FilterTree}
    {parts : List Modifier}
    (hParts :
      List.Forall₂
        (fun child modifier =>
          Says context model part child.allConstraints
            (fun given => child.truth? given) modifier)
        children parts) :
    (∀ entry ∈ childConstraints children,
        context.resolveKey model entry.1 entry.2 =
          .ok (part entry)) ∧
      (∀ comparisons,
        parts.map (Modifier.truth? comparisons) =
          childTruths
            (fun entry => (part entry).truth? comparisons)
            children) ∧
      parts.flatMap Modifier.joins =
        (childConstraints children).flatMap
          fun entry => (part entry).joins := by
  induction hParts with
  | nil => simp [childConstraints, childTruths]
  | cons hFirst _ ih =>
      rcases ih with ⟨hResolves, hTruth, hJoins⟩
      refine ⟨?_, ?_, ?_⟩
      · intro entry hEntry
        rw [childConstraints, List.mem_append] at hEntry
        rcases hEntry with hEntry | hEntry
        · exact hFirst.resolves entry hEntry
        · exact hResolves entry hEntry
      · intro comparisons
        rw [List.map_cons, childTruths, hTruth comparisons,
          hFirst.truth_eq comparisons]
      · rw [List.flatMap_cons, childConstraints,
          List.flatMap_append, hFirst.joins_eq, hJoins]

/-
  A well-formed tree says what its constraints say. The
  induction is on the tree, and a node has its parts either
  in its constraints or in its children, never in both.
-/
private theorem says_of_resolve
    {tree : FilterTree}
    (hTree : tree.WellFormed)
    {modifier : Modifier}
    (hResolve : tree.resolve context model = .ok modifier) :
    Says context model (partOf context model)
      tree.allConstraints (fun given => tree.truth? given)
      modifier := by
  induction hTree generalizing modifier with
  | @node children constraints joinType negated wraps
      hOne _ _ ih =>
  rw [resolve_node, Except.map_eq_ok_iff] at hResolve
  rcases hResolve with ⟨inner, hInner, rfl⟩
  cases constraints with
  | nil =>
      simp only [List.isEmpty_nil, if_true,
        resolveChildren_eq_ok_iff] at hInner
      rcases hInner with ⟨parts, hParts, rfl⟩
      have hSays :
          List.Forall₂
            (fun child modifier =>
              Says context model (partOf context model)
                child.allConstraints
                (fun given => child.truth? given) modifier)
            children parts := by
        have hBoth :=
          (List.forall₂_and_left children parts).mpr
            ⟨fun child hChild => hChild, hParts⟩
        exact hBoth.imp fun child part hChild =>
          ih child hChild.1 hChild.2
      rcases says_children hSays with
        ⟨hResolves, hTruth, hJoins⟩
      refine ⟨?_, ?_, ?_⟩
      · simpa [allConstraints] using hResolves
      · intro comparisons
        rw [Modifier.truth?_negateIf,
          Modifier.truth?_foldl_combine, hTruth comparisons]
        simp [truth?, JoinType.gather]
      · rw [Modifier.joins_negateIf,
          Modifier.joins_foldl_combine, hJoins]
        simp [allConstraints, Modifier.none]
  | cons entry rest =>
      have hChildren : children = [] := by simpa using hOne
      subst hChildren
      simp only [List.isEmpty_cons, Bool.false_eq_true,
        if_false, resolveConstraints_eq_ok_iff] at hInner
      rcases hInner with ⟨parts, hParts, rfl⟩
      rcases map_partOf hParts with ⟨hMap, hResolves⟩
      refine ⟨?_, ?_, ?_⟩
      · simpa [allConstraints, childConstraints]
          using hResolves
      · intro comparisons
        rw [Modifier.truth?_negateIf,
          Modifier.truth?_foldl_combine, ← hMap,
          List.map_map]
        simp [truth?, childTruths, JoinType.gather,
          Function.comp_def]
      · rw [Modifier.joins_negateIf,
          Modifier.joins_foldl_combine, ← hMap,
          List.flatMap_map]
        simp [allConstraints, childConstraints,
          Modifier.none]

/-
  However a tree was built: if it resolves then every
  constraint of it resolves by itself, the modifier has the
  truth value of the tree under every interpretation of the
  comparisons, and its joins are those of the constraints in
  the order of the tree.
-/
theorem truth?_and_joins_of_resolve
    {tree : FilterTree}
    (hBuilt : tree.Built)
    {modifier : Modifier}
    (hResolve : tree.resolve context model = .ok modifier) :
    ∃ part : Constraint → Modifier,
      (∀ entry ∈ tree.allConstraints,
        (constraint entry.1 entry.2).resolve context model =
          .ok (part entry)) ∧
      (∀ comparisons : Criterion → Truth,
        modifier.truth? comparisons =
          tree.truth? fun entry =>
            (part entry).truth? comparisons) ∧
      modifier.joins =
        tree.allConstraints.flatMap fun entry =>
          (part entry).joins := by
  have hSays := says_of_resolve hBuilt.wellFormed hResolve
  refine ⟨partOf context model, ?_, hSays.truth_eq,
    hSays.joins_eq⟩
  intro entry hEntry
  rw [resolve_constraint]
  exact hSays.resolves entry hEntry

/- A model whose rows are counted by a custom filter. -/
private def countedAuthor : Model :=
  { name := "Author"
    table := "author"
    fields := [
      .keyOfType "id" (.named FieldType.intName),
      .ofType "name" (.named FieldType.textName)]
    relations := [.backward "books" "Book" "author_id"] }

private def countedBook : Model :=
  { name := "Book"
    table := "book"
    fields := [
      .keyOfType "id" (.named FieldType.intName),
      .ofType "author_id" (.named FieldType.intName)] }

private def countedContext : Context :=
  { catalog := ⟨[countedAuthor, countedBook]⟩
    computed := [
      ("number", .aggregate .count "books" false)]
    custom := CustomFilters.ofNames ["number"] }

/-
  Neither a name nor a number of books: the row predicate
  moves to the groups.
-/
private def neitherTree : FilterTree :=
  ((constraint "name" (.literal (.string "x"))).or
    (constraint "number__gt" (.literal (.int64 2)))).negate

/- A negated disjunction over groups keeps its meaning. -/
theorem truth?_and_joins_of_resolve_neither :
    ∃ modifier,
      neitherTree.resolve countedContext countedAuthor =
        .ok modifier ∧
      modifier.predicate.isEmpty = true ∧
      ∃ part : Constraint → Modifier,
        (∀ entry ∈ neitherTree.allConstraints,
          (constraint entry.1 entry.2).resolve
              countedContext countedAuthor =
            .ok (part entry)) ∧
        (∀ comparisons : Criterion → Truth,
          modifier.truth? comparisons =
            neitherTree.truth? fun entry =>
              (part entry).truth? comparisons) ∧
        modifier.joins =
          neitherTree.allConstraints.flatMap fun entry =>
            (part entry).joins := by
  have hBuilt : neitherTree.Built :=
    .negate (.or (.constraint _ _) (.constraint _ _))
  refine ⟨_, rfl, rfl, ?_⟩
  exact truth?_and_joins_of_resolve hBuilt rfl

end FilterTree

end Relmap
