import Relmap.Proofs.Catalog.Basic
import Relmap.Proofs.Query.Meaning

/-
  The route of a filter key.

  A key hops along relations until a custom filter is met or
  no relation is named any more. There is one such route at
  most. A key that resolves has one, and its modifier joins
  what the hops join and then adds what the key that is left
  adds at the model that is reached.

  What holds of the modifiers of keys, and of combinations
  and negations if it holds of their parts, holds of the
  modifier of a tree.

  Main declarations:
    * `Context.Reaches`
    * `Context.Reaches.unique`
    * `Context.Ends`
    * `Context.exists_route_of_resolveWithin`
    * `FilterTree.holds_of_resolve`
-/

------------------------------------------------------------
-- Routes
------------------------------------------------------------

namespace Relmap

/- A foreign key stands for the field that backs it. -/
def Model.backing
    (model : Model)
    (key : String) : String :=
  ((model.relation? key).bind Relation.sourceField?).getD key

namespace Context

/-
  A key of a model leads along hops, each a relation with
  the model that has it, to a model where the key that is
  left is no hop.
-/
inductive Reaches
    (context : Context) :
    Model → String → List (Model × Relation) →
      Model → String → Prop where
  | custom {model : Model} {key : String}
      (hCustom :
        (context.custom.get? (model.backing key)).isSome =
          true) :
      Reaches context model key [] model (model.backing key)
  | direct {model : Model} {key : String}
      (hCustom :
        context.custom.get? (model.backing key) = none)
      (hHop :
        context.hop? model (model.backing key) = none) :
      Reaches context model key [] model (model.backing key)
  | hop {model target reached : Model}
      {relation : Relation}
      {key rest left : String}
      {hops : List (Model × Relation)}
      (hCustom :
        context.custom.get? (model.backing key) = none)
      (hHop :
        context.hop? model (model.backing key) =
          some (relation, rest))
      (hTarget :
        context.catalog.model? relation.target = some target)
      (hRest : Reaches context target rest hops reached left) :
      Reaches context model key ((model, relation) :: hops)
        reached left

/- Resolve a key that is no hop. -/
def resolveHere
    (context : Context)
    (model : Model)
    (key : String)
    (value : Value) : Except Error Modifier :=
  match context.custom.get? key with
  | some filter => context.resolveCustom model filter value
  | none => context.resolveDirect model key value

variable {context : Context}
variable {model : Model}
variable {key : String}

/- A key has one route at most. -/
theorem Reaches.unique
    {hops others : List (Model × Relation)}
    {reached other : Model}
    {left right : String}
    (hReaches : context.Reaches model key hops reached left)
    (hOther : context.Reaches model key others other right) :
    hops = others ∧ reached = other ∧ left = right := by
  induction hReaches generalizing others with
  | custom hCustom =>
      cases hOther with
      | custom => exact ⟨rfl, rfl, rfl⟩
      | direct hNone _ => simp [hNone] at hCustom
      | hop hNone _ _ _ => simp [hNone] at hCustom
  | direct hNone hHop =>
      cases hOther with
      | custom hCustom => simp [hNone] at hCustom
      | direct => exact ⟨rfl, rfl, rfl⟩
      | hop _ hOtherHop _ _ => simp [hHop] at hOtherHop
  | hop hNone hHop hTarget _ ih =>
      cases hOther with
      | custom hCustom => simp [hNone] at hCustom
      | direct _ hOtherHop => simp [hHop] at hOtherHop
      | hop _ hOtherHop hOtherTarget hOtherRest =>
          rw [hHop] at hOtherHop
          cases hOtherHop
          rw [hTarget] at hOtherTarget
          cases hOtherTarget
          rcases ih hOtherRest with ⟨rfl, rfl, rfl⟩
          exact ⟨rfl, rfl, rfl⟩

/- The key by which a constraint is evaluated, if it is. -/
theorem backingKey_eq_ok
    {backing : String}
    (hBacking : context.backingKey model key = .ok backing) :
    backing = model.backing key := by
  unfold backingKey at hBacking
  unfold Model.backing
  cases hRelation : model.relation? key with
  | some relation =>
      rw [hRelation] at hBacking
      cases hBacking
      rfl
  | none =>
      rw [hRelation] at hBacking
      dsimp only at hBacking
      split at hBacking
      · cases hBacking
        rfl
      · cases hBacking

/-
  How a key that is no hop resolves: as a custom filter, or
  else as a filter that the model has.
-/
inductive Ends
    (context : Context)
    (model : Model)
    (key : String)
    (value : Value) : Modifier → Prop where
  | custom {filter : CustomFilter} {computed : Computed}
      {resolved : ResolvedComputed} {criterion : Criterion}
      (hCustom : context.custom.get? key = some filter)
      (hComputed :
        context.computed.lookup filter.computed =
          some computed)
      (hResolved :
        computed.resolve context.catalog model = .ok resolved)
      (hCriterion :
        filter.lookup.criterion resolved.term value =
          .ok criterion) :
      Ends context model key value
        (if resolved.term.isAggregate then
          (Modifier.ofJoins resolved.joins).withHaving
            criterion
        else
          (Modifier.ofJoins resolved.joins).withPredicate
            criterion)
  | direct {target : FilterTarget} {operand : Value}
      {joins : List Join} {criterion : Criterion}
      (hCustom : context.custom.get? key = none)
      (hTarget :
        context.directTarget model key value =
          .ok (target, operand))
      (hJoins : targetJoins model target = .ok joins)
      (hCriterion :
        target.lookup.criterion
            (Term.qualified (target.table model.table)
              target.column)
            operand =
          .ok criterion) :
      Ends context model key value
        ((Modifier.ofJoins joins).withPredicate criterion)

theorem ends_of_resolveHere
    {value : Value}
    {part : Modifier}
    (hPart : context.resolveHere model key value = .ok part) :
    context.Ends model key value part := by
  unfold resolveHere at hPart
  cases hCustom : context.custom.get? key with
  | some filter =>
      simp only [hCustom] at hPart
      unfold resolveCustom at hPart
      cases hComputed :
          context.computed.lookup filter.computed with
      | none => simp [hComputed] at hPart
      | some computed =>
          simp only [hComputed, Except.bind_eq_ok_iff]
            at hPart
          rcases hPart with
            ⟨resolved, hResolved, criterion, hCriterion,
             hPart⟩
          cases hPart
          exact .custom hCustom hComputed hResolved hCriterion
  | none =>
      simp only [hCustom] at hPart
      unfold resolveDirect at hPart
      rcases Except.bind_eq_ok_iff.mp hPart with
        ⟨⟨target, operand⟩, hTarget, hPart⟩
      simp only [Except.bind_eq_ok_iff] at hPart
      rcases hPart with
        ⟨joins, hJoins, criterion, hCriterion, hPart⟩
      cases hPart
      exact .direct hCustom hTarget hJoins hCriterion

/-
  A key that resolves has a route. Its modifier has the
  joins of the hops in front of those of the key that is
  left. The induction is on the steps, one for every hop.
-/
theorem exists_route_of_resolveWithin
    {value : Value}
    {steps : Nat}
    {part : Modifier}
    (hPart :
      context.resolveWithin value steps model key = .ok part) :
    ∃ hops reached left joins last,
      context.Reaches model key hops reached left ∧
        List.Forall₂
          (fun hop found =>
            context.catalog.relationJoins hop.1 hop.2 =
              .ok found)
          hops joins ∧
        context.resolveHere reached left value = .ok last ∧
        part = { last with joins := joins.flatten ++ last.joins } := by
  induction steps generalizing model key part with
  | zero => cases hPart
  | succ steps ih =>
      unfold resolveWithin at hPart
      rcases Except.bind_eq_ok_iff.mp hPart with
        ⟨backing, hBacking, hPart⟩
      cases backingKey_eq_ok hBacking
      cases hCustom :
          context.custom.get? (model.backing key) with
      | some filter =>
          rw [hCustom] at hPart
          have hReaches :
              context.Reaches model key [] model
                (model.backing key) :=
            .custom (by simp [hCustom])
          refine ⟨_, _, _, [], part, hReaches, .nil, ?_, rfl⟩
          simp only [resolveHere, hCustom]
          exact hPart
      | none =>
          rw [hCustom] at hPart
          cases hHop :
              context.hop? model (model.backing key) with
          | none =>
              simp only [hHop] at hPart
              refine ⟨_, _, _, [], part,
                .direct hCustom hHop, .nil, ?_, rfl⟩
              simp only [resolveHere, hCustom]
              exact hPart
          | some hop =>
              rcases hop with ⟨relation, rest⟩
              simp only [hHop, Except.bind_eq_ok_iff] at hPart
              rcases hPart with
                ⟨target, hTarget, found, hFound, nested,
                 hNested, hPart⟩
              cases hPart
              rw [Catalog.require_eq_ok_iff] at hTarget
              rcases ih hNested with
                ⟨hops, reached, left, joins, last, hReaches,
                 hJoins, hLast, rfl⟩
              refine ⟨_, reached, left, found :: joins, last,
                .hop hCustom hHop hTarget hReaches,
                .cons hFound hJoins, hLast, ?_⟩
              rw [Modifier.ofJoins_and, List.flatten_cons,
                List.append_assoc]

end Context

end Relmap

------------------------------------------------------------
-- Trees
------------------------------------------------------------

namespace Relmap

namespace FilterTree

mutual

/-
  The constraints that the resolution of a tree looks at: a
  node that has constraints does not look at its children.
-/
def resolved : FilterTree → List Constraint
  | ⟨children, constraints, _, _, _⟩ =>
      if constraints.isEmpty then resolvedOfAll children
      else constraints

def resolvedOfAll : List FilterTree → List Constraint
  | [] => []
  | child :: rest => resolved child ++ resolvedOfAll rest

end

theorem resolvedOfAll_eq
    {children : List FilterTree}
    (hEach :
      ∀ child ∈ children,
        child.resolved = child.allConstraints) :
    resolvedOfAll children = childConstraints children := by
  induction children with
  | nil => rfl
  | cons child rest ih =>
      rw [List.forall_mem_cons] at hEach
      rw [resolvedOfAll, childConstraints, hEach.1,
        ih hEach.2]

/- Of a well-formed tree these are all constraints. -/
theorem WellFormed.resolved_eq
    {tree : FilterTree}
    (hTree : tree.WellFormed) :
    tree.resolved = tree.allConstraints := by
  induction hTree with
  | @node children constraints _ _ _ hParts _ _ ih =>
  rw [resolved, allConstraints, resolvedOfAll_eq ih]
  rcases hParts with rfl | rfl
  · cases constraints <;> simp [childConstraints]
  · simp

variable {context : Context}
variable {model : Model}

/-
  What holds of some constraints and their modifier: it
  holds of single keys, and combinations and negations keep
  it.
-/
structure IsKept
    (context : Context)
    (model : Model)
    (Holds : List Constraint → Modifier → Prop) : Prop where
  none : Holds [] .none
  key :
    ∀ entry part,
      context.resolveKey model entry.1 entry.2 = .ok part →
        Holds [entry] part
  combine :
    ∀ (joinType : JoinType) first second left right,
      Holds first left → Holds second right →
        Holds (first ++ second) (joinType.combine left right)
  negate :
    ∀ entries modifier,
      Holds entries modifier → Holds entries modifier.negate

variable {Holds : List Constraint → Modifier → Prop}

/- It holds of constraints and those before them. -/
theorem holds_of_resolveConstraints
    (hKept : IsKept context model Holds)
    {joinType : JoinType}
    {known constraints : List Constraint}
    {before modifier : Modifier}
    (hBefore : Holds known before)
    (hResolve :
      resolveConstraints context model joinType before
        constraints = .ok modifier) :
    Holds (known ++ constraints) modifier := by
  induction constraints generalizing known before with
  | nil =>
      cases hResolve
      rw [List.append_nil]
      exact hBefore
  | cons entry rest ih =>
      simp only [resolveConstraints, Except.bind_eq_ok_iff]
        at hResolve
      rcases hResolve with ⟨part, hPart, hRest⟩
      have hEntry :=
        hKept.combine joinType known [entry] before part
          hBefore (hKept.key entry part hPart)
      rw [List.append_cons]
      exact ih hEntry hRest

mutual

/- It holds of the constraints that a tree looks at. -/
theorem holds_of_resolve
    (hKept : IsKept context model Holds) :
    ∀ {tree : FilterTree} {modifier : Modifier},
      tree.resolve context model = .ok modifier →
        Holds tree.resolved modifier
  | ⟨children, constraints, joinType, negated, _⟩,
      modifier, hResolve => by
      rw [resolve_node, Except.map_eq_ok_iff] at hResolve
      rcases hResolve with ⟨inner, hInner, rfl⟩
      have hNode :
          Holds
            (if constraints.isEmpty then
              resolvedOfAll children
            else constraints) inner := by
        by_cases hEmpty : constraints.isEmpty = true
        · rw [if_pos hEmpty] at hInner ⊢
          exact holds_of_resolveChildren hKept hKept.none
            hInner
        · rw [if_neg hEmpty] at hInner ⊢
          exact holds_of_resolveConstraints hKept hKept.none
            hInner
      cases negated with
      | false => exact hNode
      | true => exact hKept.negate _ inner hNode

theorem holds_of_resolveChildren
    (hKept : IsKept context model Holds) :
    ∀ {joinType : JoinType} {known : List Constraint}
      {before modifier : Modifier}
      {children : List FilterTree},
      Holds known before →
        resolveChildren context model joinType before
            children = .ok modifier →
          Holds (known ++ resolvedOfAll children) modifier
  | joinType, known, before, modifier, [], hBefore,
      hResolve => by
      cases hResolve
      rw [resolvedOfAll, List.append_nil]
      exact hBefore
  | joinType, known, before, modifier, child :: rest,
      hBefore, hResolve => by
      simp only [resolveChildren, Except.bind_eq_ok_iff]
        at hResolve
      rcases hResolve with ⟨part, hPart, hRest⟩
      have hChild :=
        hKept.combine joinType known child.resolved before
          part hBefore (holds_of_resolve hKept hPart)
      rw [resolvedOfAll, ← List.append_assoc]
      exact holds_of_resolveChildren hKept hChild hRest

end

end FilterTree

end Relmap
