import Relmap.Proofs.Catalog.Extension
import Relmap.Proofs.Query.Join

/-
  A relation and its reverse traverse the same columns.

  The joins of a relation equate pairs of columns one after
  the other. The joins of its reverse equate the same pairs,
  each with its sides swapped, in the opposite order.

  Main declarations:
    * `Step`
    * `Catalog.IsWay`
    * `Catalog.IsTwoWay`
    * `Catalog.HasReverse`
    * `Catalog.IsLinked.isTwoWay`
    * `Catalog.hasReverse_of_link`
-/

------------------------------------------------------------
-- Steps
------------------------------------------------------------

namespace Relmap

/-
  The columns that a join equates: one of the joined table,
  and one of a table that is known already.
-/
structure Step where
  table : String
  column : String
  knownTable : String
  knownColumn : String

namespace Step

/- The join of a step. -/
def join (step : Step) : Join :=
  .onColumns step.table step.column step.knownTable
    step.knownColumn

/- The step from the joined table to the known one. -/
def flip (step : Step) : Step :=
  ⟨step.knownTable, step.knownColumn, step.table, step.column⟩

end Step

namespace Catalog

/-
  The steps of a relation that may have a reverse: one from
  the backing column of a foreign key to the key of the
  target, or two from key to key through a link table.
-/
inductive IsWay
    (model target : Model)
    (relation : Relation) : List Step → Prop where
  | foreignKey {key : ForeignKey} {column primary : String}
      (hKind : relation.kind = .foreignKey key)
      (hColumn : model.columnOf key.sourceField = .ok column)
      (hPrimary : target.keyColumn = .ok primary) :
      IsWay model target relation
        [⟨target.table, primary, model.table, column⟩]
  | manyToMany {link : ManyToMany} {own far : String}
      (hKind : relation.kind = .manyToMany link)
      (hOwn : model.keyColumn = .ok own)
      (hFar : target.keyColumn = .ok far) :
      IsWay model target relation
        [⟨link.through, link.backwardKey, model.table, own⟩,
          ⟨target.table, far, link.through, link.forwardKey⟩]

/-
  Two relations lead back and forth between two models: the
  joins of one are those of the other with every step flipped
  and in the opposite order. If there is a link table then
  both go through it and exactly one of them owns it.
-/
structure IsTwoWay
    (catalog : Catalog)
    (model target : Model)
    (relation other : Relation) : Prop where
  ways :
    ∃ steps,
      IsWay model target relation steps ∧
        catalog.relationJoins model relation =
          .ok (steps.map Step.join) ∧
        catalog.relationJoins target other =
          .ok ((steps.map Step.flip).reverse.map Step.join)
  owner :
    ∀ link, relation.kind = .manyToMany link →
      ∃ back,
        other.kind = .manyToMany back ∧
          back.through = link.through ∧
          (back.ownsThrough = true ↔
            link.ownsThrough = false)

/-
  A relation that was declared with a related name has a
  reverse: the only relation of its target that has the name,
  which leads back.
-/
def HasReverse
    (catalog : Catalog)
    (model : Model)
    (declared relation : Relation) : Prop :=
  ∀ related, declared.relatedName? = some related →
    ∃ target other,
      catalog.model? declared.target = some target ∧
        target.relations.filter (fun member =>
          member.name = related) = [other] ∧
        other.target = model.name ∧
        catalog.IsTwoWay model target relation other

end Catalog

end Relmap

------------------------------------------------------------
-- Only Reverses
------------------------------------------------------------

namespace Relmap

namespace Catalog

variable {model : Model}
variable {reverses : List (String × Relation)}
variable {other : Relation}

/- An accepted relation is the only one of its name. -/
theorem Accepts.filter_name
    (hAccepts : Accepts reverses model)
    (hMember : (model.name, other) ∈ reverses) :
    (model.withReverses reverses).relations.filter
        (fun member => member.name = other.name) =
      [other] := by
  have hAdded :
      other ∈
        (reverses.filter fun reverse =>
          reverse.1 = model.name).map Prod.snd :=
    List.mem_map_of_mem
      (List.mem_filter.mpr ⟨hMember, decide_eq_true rfl⟩)
  have hNames :
      addressed model.name reverses =
        ((reverses.filter fun reverse =>
          reverse.1 = model.name).map Prod.snd).map
            Relation.name := by
    simp [addressed]
  have hDistinct := hAccepts.distinct
  have hUnused := hAccepts.unused other.name
  rw [hNames] at hDistinct hUnused
  have hOwn :
      model.relations.filter (fun member =>
        member.name = other.name) = [] := by
    rw [List.filter_eq_nil_iff]
    intro member hOld hSame
    apply (hUnused (List.mem_map_of_mem hAdded)).2
    rw [← of_decide_eq_true hSame]
    exact List.mem_map_of_mem hOld
  rw [Model.withReverses, List.filter_append, hOwn,
    List.nil_append]
  exact filter_name_of_mem hDistinct hAdded

end Catalog

end Relmap

------------------------------------------------------------
-- Two Ways
------------------------------------------------------------

namespace Relmap

namespace Catalog

variable {catalog : Catalog}

/- A relation of a linked catalog leads back by its reverse. -/
theorem IsLinked.isTwoWay
    (hLinked : catalog.IsLinked)
    {model target : Model}
    (hModel : model ∈ catalog.models)
    {relation other : Relation}
    (hRelation : relation ∈ model.relations)
    (hTarget : catalog.model? relation.target = some target)
    (hReverse : Relation.IsReverse model relation other) :
    catalog.IsTwoWay model target relation other := by
  have hMember := (model?_eq_some hTarget).1
  have hBack : catalog.model? other.target = some model := by
    rw [hReverse.target]
    exact model?_of_mem hLinked.names hModel
  rcases
      Model.exists_keyColumn (hLinked.keyed target hMember) with
    ⟨far, hFar⟩
  rcases hReverse.kind with
    ⟨key, back, hKind, hOther, hField, _⟩ |
      ⟨link, back, hKind, hOther, hThrough, hForward,
        hBackward, hOwner⟩
  · rcases hLinked.exists_columnOf hModel hRelation hKind with
      ⟨column, hColumn⟩
    have hReached := hColumn
    rw [← hField] at hReached
    constructor
    · exact ⟨_, .foreignKey hKind hColumn hFar,
        relationJoins_of_foreignKey hTarget hKind hColumn hFar,
        relationJoins_of_backward hBack hOther hFar hReached⟩
    · intro link hLink
      rw [hKind] at hLink
      cases hLink
  · rcases
        Model.exists_keyColumn (hLinked.keyed model hModel) with
      ⟨own, hOwn⟩
    have hReturn :=
      relationJoins_of_manyToMany hBack hOther hFar hOwn
    rw [hThrough, hForward, hBackward] at hReturn
    constructor
    · exact ⟨_, .manyToMany hKind hOwn hFar,
        relationJoins_of_manyToMany hTarget hKind hOwn hFar,
        hReturn⟩
    · intro other hLink
      rw [hKind] at hLink
      cases hLink
      exact ⟨back, hOther, hThrough, by simp [hOwner]⟩

variable {models linked : List Model}
variable {complete : Model}

/- A complete relation with a related name has a reverse. -/
theorem IsLinking.hasReverse
    (hLinking : IsLinking models linked catalog)
    (hLinkable : IsLinkable models)
    (hMember : complete ∈ linked)
    {declared relation : Relation}
    (hRelation : relation ∈ complete.relations)
    (hComplete : declared.IsCompletion relation) :
    catalog.HasReverse
      (complete.withReverses (linked.flatMap reversesOf))
      declared relation := by
  have hLinked := hLinking.isLinked
  have hModel :
      complete.withReverses (linked.flatMap reversesOf) ∈
        catalog.models :=
    (model?_eq_some (hLinking.model?_of_mem hMember)).1
  have hKept :
      relation ∈
        (complete.withReverses
          (linked.flatMap reversesOf)).relations :=
    List.mem_append_left _ hRelation
  rcases hLinked.exists_target hModel hKept with
    ⟨target, hListed, hTarget⟩
  rcases hLinking.exists_isCompletion hListed with
    ⟨original, hOriginal, far, _, hFar, rfl⟩
  intro related hRelated
  have hReverse := map_name_reverse? complete relation
  rw [hComplete.relatedName, hRelated] at hReverse
  rcases Option.map_eq_some_iff.mp hReverse with
    ⟨other, hOther, rfl⟩
  have hAddressed :
      (far.name, other) ∈ linked.flatMap reversesOf := by
    have hName : far.name = relation.target :=
      (model?_eq_some hTarget).2
    rw [hName, List.mem_flatMap]
    refine ⟨complete, hMember,
      List.mem_filterMap.mpr ⟨relation, hRelation, ?_⟩⟩
    rw [hOther]
    rfl
  have hAccepts := hLinking.accepts hLinkable hOriginal hFar
  have hLeadsBack := isReverse_of_reverse? hOther
  refine ⟨_, other, hComplete.target ▸ hTarget,
    hAccepts.filter_name hAddressed, hLeadsBack.target, ?_⟩
  exact hLinked.isTwoWay hModel hKept hTarget
    ⟨hLeadsBack.name, hLeadsBack.target,
      hLeadsBack.relatedName, hLeadsBack.kind⟩

/-
  Linking completes the relations of each declared model in
  their order, and those with a related name have a reverse.
-/
theorem hasReverse_of_link
    (hLink : link models = .ok catalog)
    {original : Model}
    (hOriginal : original ∈ models) :
    ∃ model kept added,
      catalog.model? original.name = some model ∧
        model.relations = kept ++ added ∧
        List.Forall₂
          (fun declared relation =>
            declared.IsCompletion relation ∧
              catalog.HasReverse model declared relation)
          original.relations kept := by
  have hLinkable := isOk_link_iff.mp ⟨catalog, hLink⟩
  rcases isLinking_of_link hLink with ⟨linked, hLinking⟩
  rcases hLinking.each.exists_of_mem_left
      (List.mem_map_of_mem hOriginal) with
    ⟨complete, hMember, hCompleted⟩
  have hComplete := isCompletion_of_linkModel hCompleted
  have hFound := hLinking.model?_of_mem hMember
  rw [name_of_linkModel hCompleted] at hFound
  refine ⟨complete.withReverses (linked.flatMap reversesOf),
    complete.relations, _, hFound, rfl, ?_⟩
  have hEach :=
    (List.forall₂_and_left complete.relations _).mpr
      ⟨fun _ hRelation => hRelation,
        hComplete.relations.flip⟩
  refine hEach.flip.imp ?_
  rintro declared relation ⟨hRelation, hDone⟩
  exact ⟨hDone,
    hLinking.hasReverse hLinkable hMember hRelation hDone⟩

/- People who know and teach each other. -/
private def acquaintance : Model :=
  { name := "Person"
    fields := [
      { Field.keyOfType "id" (.named FieldType.intName) with
        sourceField := some "number" },
      { Field.ofType "mentor_ref"
          (.named FieldType.intName) with
        sourceField := some "mentor_number" }]
    relations := [
      (((Relation.toMany "knows" "Person").withThrough
        "friendship").withKeys "knower" "known").withRelatedName
          "known_by",
      ((Relation.toOne "mentor" "Person").withSourceField
        "mentor_ref").withRelatedName "pupils"] }

/- The conditions of the joins of all relations, as text. -/
private def conditions
    (catalog : Catalog) : List (Option (List String)) :=
  catalog.models.flatMap fun model =>
    model.relations.map fun relation =>
      (catalog.relationJoins model relation).toOption.map
        fun joins => joins.map fun join => join.condition.sql

/- The last two relations are the first two backwards. -/
private def acquaintanceConditions :
    List (Option (List String)) :=
  [some [
      "\"friendship\".\"knower\" = \"person\".\"number\"",
      "\"person\".\"number\" = \"friendship\".\"known\""],
    some [
      "\"person\".\"number\" = \"person\".\"mentor_number\""],
    some [
      "\"friendship\".\"known\" = \"person\".\"number\"",
      "\"person\".\"number\" = \"friendship\".\"knower\""],
    some [
      "\"person\".\"mentor_number\" = \"person\".\"number\""]]

/- People lead back to themselves by columns of any name. -/
theorem hasReverse_of_link_acquaintance :
    ∃ catalog model kept added,
      link [acquaintance] = .ok catalog ∧
        catalog.model? "Person" = some model ∧
        model.relations = kept ++ added ∧
        List.Forall₂
          (fun declared relation =>
            declared.IsCompletion relation ∧
              catalog.HasReverse model declared relation)
          acquaintance.relations kept ∧
        conditions catalog = acquaintanceConditions := by
  rcases Except.exists_of_any
      (show (link [acquaintance]).toOption.any (fun catalog =>
          conditions catalog = acquaintanceConditions) =
            true by
        decide +kernel) with
    ⟨catalog, hLink, hConditions⟩
  rcases hasReverse_of_link hLink List.mem_cons_self with
    ⟨model, kept, added, hModel, hRelations, hEach⟩
  exact ⟨catalog, model, kept, added, hLink, hModel,
    hRelations, hEach, of_decide_eq_true hConditions⟩

end Catalog

end Relmap
