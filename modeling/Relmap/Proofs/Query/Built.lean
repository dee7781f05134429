import Relmap.Query.FilterDocument
import Relmap.Proofs.Outcome

/-
  The filter trees that can be built.

  Trees come from constraints, from other trees, and from
  documents. However one is built, no node of it has both
  constraints and children, and a node that wraps its
  constraints keeps them in a leading leaf of its own join
  type.

  Main declarations:
    * `FilterTree.Built`
    * `FilterTree.WellFormed`
    * `FilterTree.Built.wellFormed`
-/

------------------------------------------------------------
-- Well-Formed Trees
------------------------------------------------------------

namespace Relmap

namespace FilterTree

/-
  The leading child holds the constraints of a node with a
  join type: a leaf that is not negated.
-/
def IsWrapped
    (joinType : JoinType) : List FilterTree → Prop
  | [] => False
  | first :: _ =>
      first.children = [] ∧ first.constraints ≠ [] ∧
        first.joinType = joinType ∧ first.negated = false

/- Every node has its parts in one place. -/
inductive WellFormed : FilterTree → Prop where
  | node
      {children : List FilterTree}
      {constraints : List Constraint}
      {joinType : JoinType}
      {negated wraps : Bool}
      (hParts : children = [] ∨ constraints = [])
      (hWraps :
        wraps = true → IsWrapped joinType children)
      (hChildren : ∀ child ∈ children, WellFormed child) :
      WellFormed
        ⟨children, constraints, joinType, negated, wraps⟩

namespace WellFormed

theorem children
    {tree : FilterTree}
    (hTree : tree.WellFormed) :
    ∀ child ∈ tree.children, child.WellFormed := by
  cases hTree with
  | node _ _ hChildren => exact hChildren

/- A leaf has its parts in one place. -/
theorem leaf
    (joinType : JoinType)
    (constraints : List Constraint) :
    (FilterTree.leaf joinType constraints).WellFormed :=
  .node (.inl rfl) (by simp) (by simp)

/- A node of well-formed children and constraints. -/
theorem ofParts
    {children : List FilterTree}
    (joinType : JoinType)
    (constraints : List Constraint)
    (hChildren : ∀ child ∈ children, child.WellFormed) :
    (FilterTree.ofParts children joinType
      constraints).WellFormed := by
  unfold FilterTree.ofParts
  by_cases hEmpty :
      (children.isEmpty || constraints.isEmpty) = true
  · rw [if_pos hEmpty]
    refine .node ?_ (by simp) hChildren
    simpa using hEmpty
  · rw [if_neg hEmpty]
    simp only [Bool.or_eq_true, List.isEmpty_iff,
      not_or] at hEmpty
    refine .node (.inr rfl)
      (fun _ => ⟨rfl, hEmpty.2, rfl, rfl⟩) ?_
    intro child hChild
    rcases List.mem_cons.mp hChild with rfl | hChild
    · exact leaf joinType constraints
    · exact hChildren child hChild

/- Negation does not move the parts of a node. -/
theorem withNegated
    {tree : FilterTree}
    (hTree : tree.WellFormed)
    (negated : Bool) :
    WellFormed { tree with negated := negated } := by
  cases hTree with
  | node hParts hWraps hChildren =>
      exact .node hParts hWraps hChildren

/-
  A constraint is added where the node has its constraints:
  in the node itself, in the leading child that it wraps, or
  in a leading child made for it.
-/
theorem addConstraint
    {tree : FilterTree}
    (hTree : tree.WellFormed)
    (key : String)
    (value : FilterValue) :
    (tree.addConstraint key value).WellFormed := by
  cases hTree with
  | @node children constraints joinType negated wraps
      hParts hWraps hChildren =>
  cases children with
  | nil => exact .node (.inl rfl) hWraps hChildren
  | cons first rest =>
      have hRest : ∀ child ∈ rest, child.WellFormed :=
        fun child hChild =>
          hChildren child (List.mem_cons_of_mem _ hChild)
      have hNone : constraints = [] := by simpa using hParts
      cases wraps with
      | false =>
          refine .node (.inr hNone)
            (fun _ => ⟨rfl, List.cons_ne_nil _ _, rfl, rfl⟩)
            ?_
          intro child hChild
          rcases List.mem_cons.mp hChild with rfl | hChild
          · exact leaf joinType [(key, value)]
          · exact hChildren child hChild
      | true =>
          rcases hWraps rfl with ⟨hLeaf, _, hJoin, hPlain⟩
          have hSome :
              first.constraints ++ [(key, value)] ≠ [] := by
            simp
          refine .node (.inr hNone)
            (fun _ => ⟨hLeaf, hSome, hJoin, hPlain⟩) ?_
          intro child hChild
          rcases List.mem_cons.mp hChild with rfl | hChild
          · have hFirst := hChildren first (by simp)
            cases hFirst with
            | node _ hFirstWraps hFirstChildren =>
                exact .node (.inl hLeaf) hFirstWraps
                  hFirstChildren
          · exact hRest child hChild

/- The join type changes in the leading leaf as well. -/
theorem withJoinType
    {tree : FilterTree}
    (hTree : tree.WellFormed)
    (joinType : JoinType) :
    (tree.withJoinType joinType).WellFormed := by
  cases hTree with
  | @node children constraints oldType negated wraps
      hParts hWraps hChildren =>
  cases wraps with
  | false => exact .node hParts (by simp) hChildren
  | true =>
      cases children with
      | nil => exact (hWraps rfl).elim
      | cons first rest =>
          rcases hWraps rfl with ⟨hLeaf, hSome, _, hPlain⟩
          refine .node (by simpa using hParts)
            (fun _ => ⟨hLeaf, hSome, rfl, hPlain⟩) ?_
          intro child hChild
          rcases List.mem_cons.mp hChild with rfl | hChild
          · have hFirst := hChildren first (by simp)
            cases hFirst with
            | node _ hFirstWraps hFirstChildren =>
                simp only at hLeaf
                subst hLeaf
                exact .node (.inl rfl) hFirstWraps
                  hFirstChildren
          · exact hChildren child
              (List.mem_cons_of_mem _ hChild)

end WellFormed

end FilterTree

end Relmap

------------------------------------------------------------
-- Trees Of Documents
------------------------------------------------------------

namespace Relmap

namespace FilterTree

/- The children that documents write are well-formed. -/
private def ChildrenWellFormed
    (result : Except Error (List FilterTree)) : Prop :=
  ∀ trees, result = .ok trees →
    ∀ tree ∈ trees, tree.WellFormed

mutual

/- The tree of a document is well-formed. -/
theorem wellFormed_of_ofJson :
    ∀ (json : Json) (tree : FilterTree),
      ofJson json = .ok tree → tree.WellFormed
  | .object members, tree, hTree => by
      rw [ofJson] at hTree
      simp only [Except.bind_eq_ok_iff] at hTree
      rcases hTree with
        ⟨joinType, _, children, hChildren, constraints, _,
         hNode⟩
      cases hNode
      exact (WellFormed.ofParts joinType constraints
        (wellFormed_of_childrenOfMembers members children
          hChildren)).withNegated _
  | .null, tree, hTree => by simp [ofJson] at hTree
  | .bool _, tree, hTree => by simp [ofJson] at hTree
  | .number _, tree, hTree => by simp [ofJson] at hTree
  | .string _, tree, hTree => by simp [ofJson] at hTree
  | .array _, tree, hTree => by simp [ofJson] at hTree

private theorem wellFormed_of_childrenOfMembers :
    ∀ (members : List (String × Json)),
      ChildrenWellFormed (childrenOfMembers members)
  | [], trees, hTrees => by
      cases hTrees
      simp
  | (name, json) :: rest, trees, hTrees => by
      rw [childrenOfMembers] at hTrees
      split at hTrees
      · exact wellFormed_of_childrenOfJson json trees hTrees
      · exact wellFormed_of_childrenOfMembers rest trees
          hTrees

private theorem wellFormed_of_childrenOfJson :
    ∀ (json : Json),
      ChildrenWellFormed (childrenOfJson json)
  | .array items, trees, hTrees =>
      wellFormed_of_ofJsonItems items trees
        (by rwa [childrenOfJson] at hTrees)
  | .null, _, hTrees => by simp [childrenOfJson] at hTrees
  | .bool _, _, hTrees => by
      simp [childrenOfJson] at hTrees
  | .number _, _, hTrees => by
      simp [childrenOfJson] at hTrees
  | .string _, _, hTrees => by
      simp [childrenOfJson] at hTrees
  | .object _, _, hTrees => by
      simp [childrenOfJson] at hTrees

private theorem wellFormed_of_ofJsonItems :
    ∀ (items : List Json),
      ChildrenWellFormed (ofJsonItems items)
  | [], trees, hTrees => by
      cases hTrees
      simp
  | item :: rest, trees, hTrees => by
      rw [ofJsonItems] at hTrees
      simp only [Except.bind_eq_ok_iff] at hTrees
      rcases hTrees with ⟨first, hFirst, others, hOthers, hAll⟩
      cases hAll
      intro tree hTree
      rcases List.mem_cons.mp hTree with rfl | hTree
      · exact wellFormed_of_ofJson item _ hFirst
      · exact wellFormed_of_ofJsonItems rest others hOthers
          tree hTree

end

end FilterTree

end Relmap

------------------------------------------------------------
-- Building Trees
------------------------------------------------------------

namespace Relmap

namespace FilterTree

/-
  The trees that can be built, in any number of steps. A
  child of a tree is a tree by itself.
-/
inductive Built : FilterTree → Prop where
  | ofParts
      {children : List FilterTree}
      (joinType : JoinType)
      (constraints : List Constraint)
      (hChildren : ∀ child ∈ children, Built child) :
      Built (ofParts children joinType constraints)
  | constraint
      (key : String)
      (value : FilterValue) :
      Built (constraint key value)
  | addConstraint
      {tree : FilterTree}
      (hTree : Built tree)
      (key : String)
      (value : FilterValue) :
      Built (tree.addConstraint key value)
  | withJoinType
      {tree : FilterTree}
      (hTree : Built tree)
      (joinType : JoinType) :
      Built (tree.withJoinType joinType)
  | all
      {children : List FilterTree}
      (hChildren : ∀ child ∈ children, Built child) :
      Built (all children)
  | any
      {children : List FilterTree}
      (hChildren : ∀ child ∈ children, Built child) :
      Built (any children)
  | and
      {left right : FilterTree}
      (hLeft : Built left)
      (hRight : Built right) :
      Built (left.and right)
  | or
      {left right : FilterTree}
      (hLeft : Built left)
      (hRight : Built right) :
      Built (left.or right)
  | negate
      {tree : FilterTree}
      (hTree : Built tree) :
      Built tree.negate
  | child
      {tree child : FilterTree}
      (hTree : Built tree)
      (hChild : child ∈ tree.children) :
      Built child
  | ofJson
      {json : Json}
      {tree : FilterTree}
      (hJson : ofJson json = .ok tree) :
      Built tree

namespace Built

/- However a tree is built, it is well-formed. -/
theorem wellFormed
    {tree : FilterTree}
    (hTree : Built tree) : tree.WellFormed := by
  induction hTree with
  | ofParts joinType constraints _ ih =>
      exact .ofParts joinType constraints ih
  | constraint key value => exact .leaf .and [(key, value)]
  | addConstraint _ key value ih =>
      exact ih.addConstraint key value
  | withJoinType _ joinType ih => exact ih.withJoinType joinType
  | all _ ih => exact .ofParts .and [] ih
  | any _ ih => exact .ofParts .or [] ih
  | @and left right _ _ leftIH rightIH =>
      have hBoth :
          ∀ child ∈ [left, right], child.WellFormed := by
        simp [leftIH, rightIH]
      exact .ofParts .and [] hBoth
  | @or left right _ _ leftIH rightIH =>
      have hBoth :
          ∀ child ∈ [left, right], child.WellFormed := by
        simp [leftIH, rightIH]
      exact .ofParts .or [] hBoth
  | negate _ ih => exact ih.withNegated _
  | child _ hChild ih => exact ih.children _ hChild
  | ofJson hJson => exact wellFormed_of_ofJson _ _ hJson

end Built

end FilterTree

end Relmap
