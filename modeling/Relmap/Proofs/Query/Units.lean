import Relmap.Proofs.Query.Meaning

/-
  What adds nothing, and what it is combined with.

  The modifier without predicates and joins is a unit of
  conjunctions, so a conjunction of one child resolves as
  the child does. A disjunction with it gathers the other
  side: if both rows and groups are constrained then all of
  it moves to the groups, and otherwise nothing changes.

  Main declarations:
    * `Modifier.IsMixed`
    * `Modifier.gathered`
    * `Modifier.none_or`
    * `Modifier.or_none`
    * `Modifier.not_isMixed_or`
    * `FilterTree.resolve_ofParts_singleton`
    * `FilterTree.unit_and_resolve_singleton`
-/

------------------------------------------------------------
-- Mixed Modifiers
------------------------------------------------------------

namespace Relmap

namespace Modifier

/- Both rows and groups are constrained. -/
def IsMixed (modifier : Modifier) : Prop :=
  modifier.predicate.isEmpty = false ∧
    modifier.having.isEmpty = false

instance (modifier : Modifier) :
    Decidable modifier.IsMixed :=
  inferInstanceAs (Decidable (_ ∧ _))

/-
  The modifier with one predicate at most: if both rows and
  groups are constrained then both become a predicate on
  groups.
-/
def gathered (modifier : Modifier) : Modifier :=
  if modifier.IsMixed then
    { joins := modifier.joins
      having := modifier.predicate.and modifier.having }
  else modifier

/- Gathering changes exactly the mixed modifiers. -/
theorem gathered_eq_self_iff (modifier : Modifier) :
    modifier.gathered = modifier ↔ ¬ modifier.IsMixed := by
  unfold gathered
  constructor
  · intro hSame hMixed
    rw [if_pos hMixed] at hSame
    have hRows : modifier.predicate.isEmpty = true := by
      rw [← hSame]
      rfl
    rw [hMixed.1] at hRows
    cases hRows
  · exact fun hPlain => if_neg hPlain

/- A disjunction has one predicate at most. -/
theorem not_isMixed_or (left right : Modifier) :
    ¬ (left.or right).IsMixed := by
  rintro ⟨hRows, hGroups⟩
  unfold or at hRows hGroups
  split at hRows
  · rename_i hNoGroups
    rw [if_pos hNoGroups] at hGroups
    cases hGroups
  · cases hRows

end Modifier

end Relmap

------------------------------------------------------------
-- Units
------------------------------------------------------------

namespace Relmap

namespace Modifier

/- The modifier that adds nothing is a unit on the right. -/
@[simp] theorem and_none (modifier : Modifier) :
    modifier.and none = modifier := by
  rcases modifier with ⟨predicate, joins, having⟩
  cases predicate <;> cases having <;> simp [and, none,
    Predicate.and]

/- Its opposite adds nothing either. -/
@[simp] theorem negate_none : none.negate = none := rfl

/-
  A disjunction with nothing gathers the other side: any
  predicate on groups draws that on rows to it.
-/
theorem none_or (modifier : Modifier) :
    none.or modifier = modifier.gathered := by
  rcases modifier with ⟨predicate, joins, having⟩
  cases predicate <;> cases having <;> rfl

theorem or_none (modifier : Modifier) :
    modifier.or none = modifier.gathered := by
  rcases modifier with ⟨predicate, joins, having⟩
  cases predicate <;> cases having <;>
    simp [or, none, gathered, IsMixed, combined,
      Predicate.isEmpty, Predicate.and, Predicate.or]

/- So it is a unit for all but the mixed modifiers. -/
theorem combine_none_of_not_isMixed
    (joinType : JoinType)
    {modifier : Modifier}
    (hPlain : ¬ modifier.IsMixed) :
    joinType.combine none modifier = modifier := by
  cases joinType with
  | and => exact none_and modifier
  | or =>
      exact (none_or modifier).trans
        (modifier.gathered_eq_self_iff.mpr hPlain)

end Modifier

end Relmap

------------------------------------------------------------
-- Nodes Of One Child
------------------------------------------------------------

namespace Relmap

namespace FilterTree

variable {context : Context} {model : Model}

/- A node of one child combines nothing with the child. -/
theorem resolve_ofParts_singleton
    (joinType : JoinType)
    (tree : FilterTree) :
    (ofParts [tree] joinType []).resolve context model =
      (tree.resolve context model).map
        (joinType.combine .none) := by
  have hNode :
      ofParts [tree] joinType [] =
        ⟨[tree], [], joinType, false, false⟩ := rfl
  rw [hNode, resolve_node]
  cases hTree : tree.resolve context model with
  | error fault =>
      simp [resolveChildren, hTree, bind, Except.bind,
        Except.map]
  | ok part =>
      simp [resolveChildren, hTree, bind, Except.bind,
        Except.map, negateIf]

theorem resolve_all_singleton (tree : FilterTree) :
    (all [tree]).resolve context model =
      tree.resolve context model := by
  rw [all, resolve_ofParts_singleton]
  cases tree.resolve context model with
  | error fault => rfl
  | ok part =>
      exact congrArg Except.ok (Modifier.none_and part)

theorem resolve_any_singleton (tree : FilterTree) :
    (any [tree]).resolve context model =
      (tree.resolve context model).map
        Modifier.gathered := by
  rw [any, resolve_ofParts_singleton]
  cases tree.resolve context model with
  | error fault => rfl
  | ok part =>
      exact congrArg Except.ok (Modifier.none_or part)

/- A disjunction of one child is the child unless mixed. -/
theorem resolve_any_singleton_eq_iff (tree : FilterTree) :
    (any [tree]).resolve context model =
        tree.resolve context model ↔
      ¬ ∃ modifier,
        tree.resolve context model = .ok modifier ∧
          modifier.IsMixed := by
  rw [resolve_any_singleton]
  cases tree.resolve context model with
  | error fault => simp [Except.map]
  | ok part =>
      simp [Except.map, Modifier.gathered_eq_self_iff]

/-
  Nothing is a unit of conjunctions on both sides and its
  own opposite, and a disjunction with it on either side
  gathers the modifier, which is the modifier itself unless
  both rows and groups are constrained. For the same reason
  a conjunction of one child resolves exactly as the child,
  and a disjunction of one child as the child, gathered.
-/
theorem unit_and_resolve_singleton :
    (∀ modifier : Modifier,
      modifier.and .none = modifier ∧
        Modifier.none.and modifier = modifier ∧
        modifier.or .none = modifier.gathered ∧
        Modifier.none.or modifier = modifier.gathered ∧
        (modifier.gathered = modifier ↔
          ¬ modifier.IsMixed)) ∧
      Modifier.none.negate = Modifier.none ∧
      ∀ (context : Context) (model : Model)
        (tree : FilterTree),
        (all [tree]).resolve context model =
            tree.resolve context model ∧
          (any [tree]).resolve context model =
            (tree.resolve context model).map
              Modifier.gathered ∧
          ((any [tree]).resolve context model =
              tree.resolve context model ↔
            ¬ ∃ modifier,
              tree.resolve context model = .ok modifier ∧
                modifier.IsMixed) := by
  refine ⟨?_, Modifier.negate_none, ?_⟩
  · intro modifier
    exact ⟨modifier.and_none, modifier.none_and,
      modifier.or_none, modifier.none_or,
      modifier.gathered_eq_self_iff⟩
  · intro context model tree
    exact ⟨resolve_all_singleton tree,
      resolve_any_singleton tree,
      resolve_any_singleton_eq_iff tree⟩

/- A model, and a context that counts its rows. -/
def talliedModel : Model :=
  { name := "Author"
    table := "author"
    fields := [
      .keyOfType "id" (.named FieldType.intName),
      .ofType "name" (.named FieldType.textName)] }

def talliedContext : Context :=
  { catalog := ⟨[talliedModel]⟩
    computed := [("number", .aggregate .count "id" false)]
    custom := CustomFilters.ofNames ["number"] }

/- Rows with a name, in groups of more than two. -/
private def talliedTree : FilterTree :=
  (constraint "name" (.literal (.string "x"))).and
    (constraint "number__gt" (.literal (.int64 2)))

/-
  On a mixed modifier a disjunction with nothing is not the
  modifier, on neither side, and a disjunction of one child
  does not resolve as the child.
-/
theorem exists_or_none_ne :
    ∃ modifier,
      talliedTree.resolve talliedContext talliedModel =
          .ok modifier ∧
        modifier.or .none ≠ modifier ∧
        Modifier.none.or modifier ≠ modifier ∧
        (any [talliedTree]).resolve
            talliedContext talliedModel ≠
          talliedTree.resolve talliedContext talliedModel := by
  have hMixed :
      ((talliedTree.resolve talliedContext
          talliedModel).toOption.any
        fun modifier => decide modifier.IsMixed) = true := by
    decide +kernel
  rcases Except.exists_of_any hMixed with
    ⟨modifier, hResolve, hBoth⟩
  have hBoth : modifier.IsMixed := of_decide_eq_true hBoth
  refine ⟨modifier, hResolve, ?_, ?_, ?_⟩
  · rw [Modifier.or_none, ne_eq,
      Modifier.gathered_eq_self_iff, not_not]
    exact hBoth
  · rw [Modifier.none_or, ne_eq,
      Modifier.gathered_eq_self_iff, not_not]
    exact hBoth
  · rw [ne_eq, resolve_any_singleton_eq_iff, not_not]
    exact ⟨modifier, hResolve, hBoth⟩

end FilterTree

end Relmap
