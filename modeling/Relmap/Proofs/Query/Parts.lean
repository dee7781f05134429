import Relmap.Proofs.Query.Units

/-
  A node as it is meant: constraints of its own, children
  that it was given, a join type and a negation.

  Constraints stand in the node itself or in the child that
  it wraps. Wherever they stand, each operation changes one
  part and leaves the others, and the node resolves exactly
  as its constraints and then its children do one after the
  other.

  Main declarations:
    * `FilterTree.Parts`
    * `FilterTree.parts`
    * `FilterTree.Edit`
    * `FilterTree.WellFormed.parts_edit`
    * `FilterTree.Parts.foldl_edit`
    * `FilterTree.WellFormed.resolve_eq_parts`
    * `FilterTree.keeps_parts_of_built`
-/

------------------------------------------------------------
-- Parts Of A Node
------------------------------------------------------------

namespace Relmap

/- The parts of a node, wherever it keeps them. -/
@[ext] structure FilterTree.Parts where
  constraints : List Constraint
  children : List FilterTree
  joinType : JoinType
  negated : Bool

/-
  The parts of a node. The leading child of a node that
  wraps its constraints is none of the children it was given.
-/
def FilterTree.parts (tree : FilterTree) : FilterTree.Parts :=
  match tree.wraps, tree.children with
  | true, first :: rest =>
      ⟨first.constraints, rest, tree.joinType, tree.negated⟩
  | _, _ =>
      ⟨tree.constraints, tree.children, tree.joinType,
        tree.negated⟩

namespace FilterTree

/- A node of parts has these parts and is not negated. -/
theorem parts_ofParts
    (children : List FilterTree)
    (joinType : JoinType)
    (constraints : List Constraint) :
    (ofParts children joinType constraints).parts =
      ⟨constraints, children, joinType, false⟩ := by
  unfold ofParts
  split <;> rfl

/- A node that wraps nothing keeps its parts in itself. -/
theorem parts_of_not_wraps
    {tree : FilterTree}
    (hWraps : tree.wraps = false) :
    tree.parts =
      ⟨tree.constraints, tree.children, tree.joinType,
        tree.negated⟩ := by
  unfold parts
  rw [hWraps]

end FilterTree

end Relmap

------------------------------------------------------------
-- Operations On A Node
------------------------------------------------------------

namespace Relmap

/- An operation that changes one part of a node. -/
inductive FilterTree.Edit where
  | addConstraint (key : String) (value : FilterValue)
  | withJoinType (joinType : JoinType)
  | negate

namespace FilterTree

/- The node after an operation. -/
def edit (tree : FilterTree) : Edit → FilterTree
  | .addConstraint key value => tree.addConstraint key value
  | .withJoinType joinType => tree.withJoinType joinType
  | .negate => tree.negate

namespace Edit

/- The constraint that an operation adds. -/
def constraint? : Edit → Option Constraint
  | .addConstraint key value => some (key, value)
  | _ => none

/- The join type that an operation sets. -/
def joinType? : Edit → Option JoinType
  | .withJoinType joinType => some joinType
  | _ => none

def isNegate : Edit → Bool
  | .negate => true
  | _ => false

end Edit

namespace Parts

/- The parts after an operation. -/
def edit (parts : Parts) : Edit → Parts
  | .addConstraint key value =>
      { parts with
        constraints := parts.constraints ++ [(key, value)] }
  | .withJoinType joinType =>
      { parts with joinType := joinType }
  | .negate => { parts with negated := !parts.negated }

/- One more is odd if and only if one less is not. -/
private theorem decide_succ_odd (n : Nat) :
    decide ((n + 1) % 2 = 1) = !decide (n % 2 = 1) := by
  rw [← decide_not]
  exact decide_eq_decide.mpr (by omega)

/-
  In whatever order operations come: constraints are added
  in their order, the last join type counts, every second
  negation undoes one, and the children stay.
-/
theorem foldl_edit
    (edits : List Edit)
    (parts : Parts) :
    edits.foldl edit parts =
      { constraints :=
          parts.constraints ++
            edits.filterMap Edit.constraint?
        children := parts.children
        joinType :=
          (edits.filterMap Edit.joinType?).getLast?.getD
            parts.joinType
        negated :=
          parts.negated ^^
            decide (edits.countP Edit.isNegate % 2 = 1) } := by
  induction edits generalizing parts with
  | nil => simp
  | cons first rest ih =>
      rw [List.foldl_cons, ih]
      cases first with
      | addConstraint key value =>
          simp [edit, Edit.constraint?, Edit.joinType?,
            Edit.isNegate, List.filterMap_cons]
      | withJoinType joinType =>
          simp [edit, Edit.constraint?, Edit.joinType?,
            Edit.isNegate, List.filterMap_cons,
            List.getLast?_cons]
      | negate =>
          have hCount :
              (Edit.negate :: rest).countP Edit.isNegate =
                rest.countP Edit.isNegate + 1 :=
            List.countP_cons_of_pos rfl
          rw [hCount, decide_succ_odd]
          simp [edit, Edit.constraint?, Edit.joinType?,
            List.filterMap_cons]

end Parts

/-
  A constraint that is added comes last among those of the
  node, wherever it has them.
-/
theorem WellFormed.parts_addConstraint
    {tree : FilterTree}
    (hTree : tree.WellFormed)
    (key : String)
    (value : FilterValue) :
    (tree.addConstraint key value).parts =
      { tree.parts with
        constraints :=
          tree.parts.constraints ++ [(key, value)] } := by
  cases hTree with
  | @node children constraints joinType negated wraps
      hParts hWraps _ =>
  cases wraps with
  | true =>
      cases children with
      | nil => exact (hWraps rfl).elim
      | cons first rest => rfl
  | false =>
      cases children with
      | nil => rfl
      | cons first rest =>
          -- With children the node holds no constraint yet.
          have hNone : constraints = [] := by simpa using hParts
          subst hNone
          rfl

theorem parts_withJoinType
    (tree : FilterTree)
    (joinType : JoinType) :
    (tree.withJoinType joinType).parts =
      { tree.parts with joinType := joinType } := by
  rcases tree with
    ⟨children, constraints, oldType, negated, wraps⟩
  cases wraps <;> cases children <;> rfl

theorem parts_negate (tree : FilterTree) :
    tree.negate.parts =
      { tree.parts with negated := !tree.parts.negated } := by
  rcases tree with
    ⟨children, constraints, joinType, negated, wraps⟩
  cases wraps <;> cases children <;> rfl

/- Operations on a node are operations on its parts. -/
theorem WellFormed.parts_edit
    {tree : FilterTree}
    (hTree : tree.WellFormed)
    (edit : Edit) :
    (tree.edit edit).parts = tree.parts.edit edit := by
  cases edit with
  | addConstraint key value =>
      exact hTree.parts_addConstraint key value
  | withJoinType joinType =>
      exact parts_withJoinType tree joinType
  | negate => exact parts_negate tree

theorem WellFormed.edit
    {tree : FilterTree}
    (hTree : tree.WellFormed)
    (edit : Edit) :
    (tree.edit edit).WellFormed := by
  cases edit with
  | addConstraint key value =>
      exact hTree.addConstraint key value
  | withJoinType joinType => exact hTree.withJoinType joinType
  | negate => exact hTree.withNegated _

/- So are any number of them. -/
theorem WellFormed.parts_foldl_edit
    {tree : FilterTree}
    (hTree : tree.WellFormed)
    (edits : List Edit) :
    (edits.foldl FilterTree.edit tree).parts =
      edits.foldl Parts.edit tree.parts := by
  induction edits generalizing tree with
  | nil => rfl
  | cons first rest ih =>
      rw [List.foldl_cons, List.foldl_cons,
        ih (hTree.edit first), hTree.parts_edit first]

end FilterTree

end Relmap

------------------------------------------------------------
-- Resolution By Parts
------------------------------------------------------------

namespace Relmap

/-
  Some modifiers combined from the left. The first of them
  that is a fault is the result.
-/
def JoinType.combineAll
    (joinType : JoinType)
    (before : Modifier)
    (results : List (Except Error Modifier)) :
    Except Error Modifier :=
  results.foldlM
    (fun whole result =>
      result.map (joinType.combine whole))
    before

/-
  Resolve the parts of a node: its constraints in order,
  then its children in order, combined from the left by its
  join type beginning with nothing, and negated at the end.
-/
def FilterTree.Parts.resolve
    (context : Context)
    (model : Model)
    (parts : FilterTree.Parts) : Except Error Modifier :=
  (parts.joinType.combineAll .none
    (parts.constraints.map
        (fun entry =>
          (FilterTree.constraint entry.1 entry.2).resolve
            context model) ++
      parts.children.map
        (FilterTree.resolve context model))).map
    (FilterTree.negateIf parts.negated)

namespace JoinType

variable {joinType : JoinType} {before : Modifier}

theorem combineAll_cons
    (result : Except Error Modifier)
    (results : List (Except Error Modifier)) :
    joinType.combineAll before (result :: results) =
      (do
        let part ← result
        joinType.combineAll (joinType.combine before part)
          results) := by
  rw [combineAll, List.foldlM_cons]
  cases result <;> rfl

theorem combineAll_append
    (first second : List (Except Error Modifier)) :
    joinType.combineAll before (first ++ second) =
      (do
        let whole ← joinType.combineAll before first
        joinType.combineAll whole second) :=
  List.foldlM_append

end JoinType

namespace FilterTree

variable {context : Context} {model : Model}
variable {joinType : JoinType}

theorem resolveConstraints_eq_combineAll
    (before : Modifier)
    (constraints : List Constraint) :
    resolveConstraints context model joinType before
        constraints =
      joinType.combineAll before
        (constraints.map fun entry =>
          (constraint entry.1 entry.2).resolve
            context model) := by
  induction constraints generalizing before with
  | nil => rfl
  | cons entry rest ih =>
      rw [resolveConstraints, List.map_cons,
        JoinType.combineAll_cons, resolve_constraint]
      simp only [ih]

theorem resolveChildren_eq_combineAll
    (before : Modifier)
    (children : List FilterTree) :
    resolveChildren context model joinType before children =
      joinType.combineAll before
        (children.map (resolve context model)) := by
  induction children generalizing before with
  | nil => rfl
  | cons child rest ih =>
      rw [resolveChildren, List.map_cons,
        JoinType.combineAll_cons]
      simp only [ih]

/-
  A combination of some parts is not changed by nothing in
  front: a conjunction never is, and a disjunction of parts
  has one predicate at most.
-/
theorem combine_none_of_resolveConstraints
    {constraints : List Constraint}
    {modifier : Modifier}
    (hSome : constraints ≠ [])
    (hResolve :
      resolveConstraints context model joinType .none
        constraints = .ok modifier) :
    joinType.combine .none modifier = modifier := by
  cases joinType with
  | and => exact Modifier.none_and modifier
  | or =>
      rw [resolveConstraints_eq_ok_iff] at hResolve
      rcases hResolve with ⟨parts, hParts, rfl⟩
      rcases parts.eq_nil_or_concat with
        rfl | ⟨front, last, rfl⟩
      · cases hParts
        exact absurd rfl hSome
      · apply Modifier.combine_none_of_not_isMixed
        rw [List.concat_eq_append, List.foldl_append]
        exact Modifier.not_isMixed_or _ last

/- A leaf resolves to its combined constraints. -/
theorem resolve_leaf
    {tree : FilterTree}
    (hLeaf : tree.children = [])
    (hPlain : tree.negated = false) :
    tree.resolve context model =
      resolveConstraints context model tree.joinType .none
        tree.constraints := by
  rcases tree with
    ⟨children, constraints, joinType, negated, wraps⟩
  cases hLeaf
  cases hPlain
  have hSame : negateIf false = id := rfl
  have hMap :
      ∀ result : Except Error Modifier,
        result.map id = result := by
    intro result
    cases result <;> rfl
  rw [resolve_node, hSame, hMap]
  cases constraints <;> rfl

/-
  A well-formed node resolves as its parts do. If it wraps
  its constraints then they are combined in the leading
  child first, and being combined with nothing afterwards
  does not change them.
-/
theorem WellFormed.resolve_eq_parts
    {tree : FilterTree}
    (hTree : tree.WellFormed) :
    tree.resolve context model =
      tree.parts.resolve context model := by
  cases hTree with
  | @node children constraints joinType negated wraps
      hParts hWraps _ =>
  rw [resolve_node]
  cases wraps with
  | false =>
      rw [parts_of_not_wraps rfl]
      refine congrArg (Except.map (negateIf negated)) ?_
      rcases hParts with rfl | rfl
      · cases constraints with
        | nil => rfl
        | cons entry rest =>
            rw [List.map_nil, List.append_nil]
            exact resolveConstraints_eq_combineAll .none _
      · exact resolveChildren_eq_combineAll .none children
  | true =>
      cases children with
      | nil => exact (hWraps rfl).elim
      | cons first rest =>
          have hNone : constraints = [] := by simpa using hParts
          subst hNone
          rcases hWraps rfl with ⟨hLeaf, hSome, rfl, hPlain⟩
          refine congrArg (Except.map (negateIf negated)) ?_
          change
            resolveChildren context model first.joinType .none
                (first :: rest) =
              first.joinType.combineAll .none
                (first.constraints.map _ ++ rest.map _)
          rw [resolveChildren, resolve_leaf hLeaf hPlain,
            JoinType.combineAll_append,
            ← resolveConstraints_eq_combineAll]
          cases hWhole :
              resolveConstraints context model first.joinType
                .none first.constraints with
          | error fault => rfl
          | ok whole =>
              simp only [bind, Except.bind]
              rw [combine_none_of_resolveConstraints hSome
                  hWhole,
                resolveChildren_eq_combineAll]

/-
  However a tree was built, every node of it has its parts
  in one place. Making a node of parts makes a node with
  exactly these parts. Adding a constraint, setting the join
  type and negating change one part and leave the others, in
  any order and number of calls. And the tree resolves to
  its constraints and then its children, combined from the
  left beginning with nothing, and negated at the end.
-/
theorem keeps_parts_of_built
    {tree : FilterTree}
    (hBuilt : tree.Built) :
    tree.WellFormed ∧
      (∀ children joinType constraints,
        (ofParts children joinType constraints).parts =
          ⟨constraints, children, joinType, false⟩) ∧
      (∀ key value,
        (tree.addConstraint key value).parts =
          { tree.parts with
            constraints :=
              tree.parts.constraints ++ [(key, value)] }) ∧
      (∀ joinType,
        (tree.withJoinType joinType).parts =
          { tree.parts with joinType := joinType }) ∧
      tree.negate.parts =
        { tree.parts with negated := !tree.parts.negated } ∧
      (∀ edits : List Edit,
        (edits.foldl FilterTree.edit tree).parts =
          { constraints :=
              tree.parts.constraints ++
                edits.filterMap Edit.constraint?
            children := tree.parts.children
            joinType :=
              (edits.filterMap Edit.joinType?).getLast?.getD
                tree.parts.joinType
            negated :=
              tree.parts.negated ^^
                decide
                  (edits.countP Edit.isNegate % 2 = 1) }) ∧
      ∀ context model,
        tree.resolve context model =
          tree.parts.resolve context model := by
  have hTree := hBuilt.wellFormed
  refine ⟨hTree, parts_ofParts, hTree.parts_addConstraint,
    parts_withJoinType tree, parts_negate tree, ?_, ?_⟩
  · intro edits
    rw [hTree.parts_foldl_edit, Parts.foldl_edit]
  · intro context model
    exact hTree.resolve_eq_parts

private def named (text : String) : Constraint :=
  ("name", .literal (.string text))

private def tallied (number : Int64) : Constraint :=
  ("number__gt", .literal (.int64 number))

/- A conjunction that becomes a disjunction on the way. -/
private def regroupedTree : FilterTree :=
  ((((all
      [leaf .and [named "x"],
        leaf .and [tallied 2]]).addConstraint
          "name" (.literal (.string "y"))).withJoinType
            .or).addConstraint
              "number__gt" (.literal (.int64 3))).negate

/-
  Constraints on rows and groups that are added to a node
  with children stay its own, also as a disjunction.
-/
theorem keeps_parts_of_built_regrouped :
    regroupedTree.Built ∧
      regroupedTree.parts =
        ⟨[named "y", tallied 3],
          [leaf .and [named "x"], leaf .and [tallied 2]],
          .or, true⟩ ∧
      ∃ modifier,
        regroupedTree.resolve talliedContext talliedModel =
            .ok modifier ∧
          regroupedTree.parts.resolve
              talliedContext talliedModel = .ok modifier ∧
          modifier.having.isEmpty = false := by
  have hBuilt : regroupedTree.Built := by
    refine .negate (.addConstraint (.withJoinType
      (.addConstraint (.all ?_) _ _) _) _ _)
    intro child hChild
    rcases List.mem_pair.mp hChild with rfl | rfl
    · exact .constraint _ _
    · exact .constraint _ _
  refine ⟨hBuilt, rfl, _, rfl, ?_, rfl⟩
  rcases keeps_parts_of_built hBuilt with
    ⟨_, _, _, _, _, _, hParts⟩
  rw [← hParts]
  rfl

end FilterTree

end Relmap
