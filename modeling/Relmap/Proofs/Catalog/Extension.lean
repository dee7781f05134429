import Mathlib.Data.List.Nodup
import Relmap.Proofs.Catalog.Validity

/-
  What a linked catalog has beyond its declarations.

  Linking adds members and takes none away: columns for the
  foreign keys that have no field, and the reverse of each
  relation that names one. Names stay distinct, and every
  relation can be followed.

  Main declarations:
    * `Relation.IsReverse`
    * `Catalog.pointing`
    * `Catalog.Extends`
    * `Model.IsSound`
    * `Catalog.extends_of_link`
-/

------------------------------------------------------------
-- Extensions
------------------------------------------------------------

namespace Relmap

/-
  A relation is the reverse of one of a model if it leads
  back under the related name: over the same field, or
  through the same link table, whose columns change sides
  and which is owned by one of both.
-/
structure Relation.IsReverse
    (model : Model)
    (relation other : Relation) : Prop where
  name : relation.relatedName? = some other.name
  target : other.target = model.name
  relatedName : other.relatedName? = none
  kind :
    (∃ key back,
        relation.kind = .foreignKey key ∧
          other.kind = .backward back ∧
          back.relationField = key.sourceField ∧
          back.oneToOne = key.oneToOne) ∨
      ∃ link back,
        relation.kind = .manyToMany link ∧
          other.kind = .manyToMany back ∧
          back.through = link.through ∧
          back.forwardKey = link.backwardKey ∧
          back.backwardKey = link.forwardKey ∧
          back.ownsThrough = !link.ownsThrough

namespace Catalog

/- Relations with a related name that lead to a model. -/
def pointingOf
    (target : String)
    (model : Model) : List (Model × Relation) :=
  (model.relations.filter fun relation =>
    relation.target = target ∧
      relation.relatedName?.isSome = true).map
        fun relation => (model, relation)

def pointing
    (catalog : Catalog)
    (target : String) : List (Model × Relation) :=
  catalog.models.flatMap (pointingOf target)

/-
  A model of a catalog extends its declaration by columns for
  foreign keys without a declared field, and by the reverse
  relations of all relations that point at it.
-/
structure Extends
    (catalog : Catalog)
    (original linked : Model) : Prop where
  same :
    linked =
      { original with
        table := original.tableName
        fields := linked.fields
        relations := linked.relations }
  fields :
    ∃ kept added,
      linked.fields = kept ++ added ∧
        List.Forall₂ Field.Keeps original.fields kept ∧
        (added.map Field.name).Nodup ∧
        (∀ name,
          name ∈ added.map Field.name ↔
            name ∈ original.relations.filterMap
                Relation.sourceName? ∧
              name ∉ original.fields.map Field.name) ∧
        ∀ field ∈ added, field.IsColumn
  relations :
    ∃ kept added,
      linked.relations = kept ++ added ∧
        List.Forall₂ Relation.IsCompletion original.relations
          kept ∧
        List.Forall₂
          (fun source other =>
            Relation.IsReverse source.1 source.2 other)
          (catalog.pointing original.name) added

end Catalog

/-
  A model is sound if its members have distinct names and one
  is the key, foreign keys have their fields, and link tables
  have a name and two columns.
-/
structure Model.IsSound (model : Model) : Prop where
  fields : (model.fields.map Field.name).Nodup
  relations : (model.relations.map Relation.name).Nodup
  key : model.fields.countP Field.primaryKey = 1
  backed :
    ∀ relation ∈ model.relations, ∀ source,
      relation.sourceField? = some source →
        source ∈ model.fields.map Field.name
  links :
    ∀ relation ∈ model.relations, ∀ link,
      relation.kind = .manyToMany link → link.IsComplete

end Relmap

------------------------------------------------------------
-- Added Relations
------------------------------------------------------------

namespace Relmap

namespace Catalog

variable {declared : Catalog}
variable {model complete : Model}

/- A reverse relation is one, in the sense of above. -/
theorem isReverse_of_reverse?
    {relation other : Relation}
    (hReverse : reverse? model relation = some other) :
    Relation.IsReverse model relation other := by
  unfold reverse? at hReverse
  split at hReverse
  · rename_i key hKind
    rcases Option.map_eq_some_iff.mp hReverse with
      ⟨name, hName, rfl⟩
    refine ⟨?_, rfl, rfl, .inl ⟨key, _, hKind, rfl, rfl, rfl⟩⟩
    simpa [Relation.relatedName?, hKind] using hName
  · cases hReverse
  · rename_i link hKind
    rcases Option.map_eq_some_iff.mp hReverse with
      ⟨name, hName, rfl⟩
    refine ⟨?_, rfl, rfl,
      .inr ⟨link, _, hKind, rfl, rfl, rfl, rfl, rfl⟩⟩
    simpa [Relation.relatedName?, hKind] using hName

/- Each related name has its reverse, in the same order. -/
theorem forall₂_reverses
    {source : Model}
    (hSource : source.name = model.name)
    (target : String)
    (relations : List Relation) :
    List.Forall₂
      (fun source other =>
        Relation.IsReverse source.1 source.2 other)
      ((relations.filter fun relation =>
        relation.target = target ∧
          relation.relatedName?.isSome = true).map
            fun relation => (source, relation))
      (((relations.filterMap fun relation =>
          (reverse? model relation).map fun other =>
            (relation.target, other)).filter fun reverse =>
              reverse.1 = target).map Prod.snd) := by
  induction relations with
  | nil => exact .nil
  | cons relation rest ih =>
      have hName := map_name_reverse? model relation
      cases hReverse : reverse? model relation with
      | none =>
          rw [hReverse] at hName
          simpa [← hName, hReverse] using ih
      | some other =>
          rw [hReverse] at hName
          have hOther := isReverse_of_reverse? hReverse
          by_cases hTarget : relation.target = target
          · have hFirst :
                Relation.IsReverse source relation other :=
              ⟨hOther.name, hSource ▸ hOther.target,
                hOther.relatedName, hOther.kind⟩
            simpa [hReverse, hTarget, ← hName] using
              And.intro hFirst ih
          · simpa [hReverse, hTarget] using ih

/- A model points where it did before relations were added. -/
theorem pointingOf_withReverses
    {linked : List Model}
    (target : String)
    (complete : Model) :
    pointingOf target
        (complete.withReverses (linked.flatMap reversesOf)) =
      (complete.relations.filter fun relation =>
        relation.target = target ∧
          relation.relatedName?.isSome = true).map
            fun relation =>
              (complete.withReverses
                (linked.flatMap reversesOf), relation) := by
  have hAdded :
      (((linked.flatMap reversesOf).filter fun reverse =>
          reverse.1 = complete.name).map Prod.snd).filter
        (fun relation =>
          relation.target = target ∧
            relation.relatedName?.isSome = true) = [] := by
    rw [List.filter_eq_nil_iff]
    intro other hOther
    rcases List.mem_map.mp hOther with
      ⟨reverse, hReverse, rfl⟩
    rcases List.mem_flatMap.mp
        (List.mem_filter.mp hReverse).1 with
      ⟨source, _, hMember⟩
    rcases List.mem_filterMap.mp hMember with
      ⟨relation, _, hSome⟩
    rcases Option.map_eq_some_iff.mp hSome with
      ⟨found, hFound, rfl⟩
    simp [(isReverse_of_reverse? hFound).relatedName]
  have hRelations :
      (complete.withReverses
          (linked.flatMap reversesOf)).relations =
        complete.relations ++
          ((linked.flatMap reversesOf).filter fun reverse =>
            reverse.1 = complete.name).map Prod.snd :=
    rfl
  rw [pointingOf, hRelations, List.filter_append, hAdded,
    List.append_nil]

/- The added relations are the reverses of those that point. -/
theorem forall₂_pointing
    {linked : List Model}
    (target : String)
    (sources : List Model) :
    List.Forall₂
      (fun source other =>
        Relation.IsReverse source.1 source.2 other)
      ((sources.map (Model.withReverses
        (linked.flatMap reversesOf))).flatMap
          (pointingOf target))
      (((sources.flatMap reversesOf).filter fun reverse =>
        reverse.1 = target).map Prod.snd) := by
  induction sources with
  | nil => exact .nil
  | cons complete rest ih =>
      rw [List.map_cons, List.flatMap_cons,
        pointingOf_withReverses, List.flatMap_cons,
        List.filter_append, List.map_append]
      exact List.rel_append
        (forall₂_reverses rfl target complete.relations) ih

end Catalog

end Relmap

------------------------------------------------------------
-- Added Fields
------------------------------------------------------------

namespace Relmap

namespace Catalog

variable {declared : Catalog}
variable {model complete : Model}
variable {fields results : List Field}

/- Backed fields have names as distinct as the declared. -/
theorem Backs.nodup
    (hBacks : Backs fields results)
    (hNodup : (fields.map Field.name).Nodup) :
    (results.map Field.name).Nodup := by
  rcases hBacks with
    ⟨kept, added, rfl, hKept, hDistinct, hAdded⟩
  rw [List.map_append, Field.map_name_of_keeps hKept]
  refine List.Nodup.append hNodup hDistinct ?_
  intro name hOld hNew
  rcases List.mem_map.mp hNew with ⟨field, hField, rfl⟩
  exact (hAdded field hField).1 hOld

/- Backing adds no keys. -/
theorem Backs.countP_primaryKey
    (hBacks : Backs fields results) :
    results.countP Field.primaryKey =
      fields.countP Field.primaryKey := by
  rcases hBacks with ⟨kept, added, rfl, hKept, _, hAdded⟩
  have hNone : added.countP Field.primaryKey = 0 := by
    rw [List.countP_eq_zero]
    intro field hField
    simp [(hAdded field hField).2.primaryKey]
  rw [List.countP_append, Field.countP_of_keeps hKept, hNone,
    Nat.add_zero]

theorem IsCompletion.backs
    (hComplete : IsCompletion declared model complete) :
    Backs model.fields complete.fields := by
  rw [hComplete.fields]
  exact backs_foldl_backRelation (backs_refl _) _

/- Columns are added for sources without a declared field. -/
theorem IsCompletion.exists_added
    (hComplete : IsCompletion declared model complete)
    (hKeyed :
      ∀ model ∈ declared.models,
        model.primaryKey?.isSome = true) :
    ∃ kept added,
      complete.fields = kept ++ added ∧
        List.Forall₂ Field.Keeps model.fields kept ∧
        (added.map Field.name).Nodup ∧
        (∀ name,
          name ∈ added.map Field.name ↔
            name ∈ model.relations.filterMap
                Relation.sourceName? ∧
              name ∉ model.fields.map Field.name) ∧
        ∀ field ∈ added, field.IsColumn := by
  rcases hComplete.backs with
    ⟨kept, added, hFields, hKept, hNodup, hAdded⟩
  refine ⟨kept, added, hFields, hKept, hNodup, ?_,
    fun field hField => (hAdded field hField).2⟩
  intro name
  have hAll : name ∈ complete.fields.map Field.name ↔ _ :=
    hComplete.mem_names_iff hKeyed
  rw [hFields, List.map_append, List.mem_append,
    Field.map_name_of_keeps hKept] at hAll
  constructor
  · intro hName
    have hNew : name ∉ model.fields.map Field.name := by
      rcases List.mem_map.mp hName with ⟨field, hField, rfl⟩
      exact (hAdded field hField).1
    exact ⟨(hAll.mp (.inr hName)).resolve_left hNew, hNew⟩
  · rintro ⟨hSource, hNew⟩
    exact (hAll.mpr (.inr hSource)).resolve_left hNew

end Catalog

end Relmap

------------------------------------------------------------
-- Linked Models
------------------------------------------------------------

namespace Relmap

namespace Catalog

variable {models linked : List Model}
variable {catalog : Catalog}
variable {model complete : Model}

/- A completed model with its reverses is an extension. -/
theorem IsLinking.extends
    (hLinking : IsLinking models linked catalog)
    (hComplete :
      IsCompletion ⟨models.map withTable⟩ (withTable model)
        complete) :
    catalog.Extends model
      (complete.withReverses (linked.flatMap reversesOf)) := by
  have hName : complete.name = model.name := by
    rw [hComplete.same]
    rfl
  constructor
  · rw [hComplete.same]
    rfl
  · exact hComplete.exists_added hLinking.keyed
  · refine ⟨complete.relations, _, rfl, hComplete.relations, ?_⟩
    rw [pointing, hLinking.reversed, hName]
    exact forall₂_pointing model.name linked

/- Relations that are addressed to a model come last. -/
theorem map_name_relations_withReverses
    (reverses : List (String × Relation))
    (model : Model) :
    (model.withReverses reverses).relations.map
        Relation.name =
      model.relations.map Relation.name ++
        addressed model.name reverses := by
  simp [Model.withReverses, addressed]

/- Accepted relations keep names distinct. -/
theorem Accepts.nodup
    {reverses : List (String × Relation)}
    (hAccepts : Accepts reverses model)
    (hNodup : (model.relations.map Relation.name).Nodup) :
    ((model.withReverses reverses).relations.map
      Relation.name).Nodup := by
  rw [map_name_relations_withReverses]
  refine List.Nodup.append hNodup hAccepts.distinct ?_
  intro name hOld hNew
  exact (hAccepts.unused name hNew).2 hOld

/- A reverse link is as complete as the link it reverses. -/
theorem isComplete_of_reverse?
    {relation other : Relation}
    (hReverse : reverse? model relation = some other)
    (hComplete :
      ∀ link, relation.kind = .manyToMany link →
        link.IsComplete)
    {link : ManyToMany}
    (hLink : other.kind = .manyToMany link) :
    link.IsComplete := by
  rcases (isReverse_of_reverse? hReverse).kind with
    ⟨_, back, _, hBack, _⟩ |
      ⟨forward, back, hForward, hBack, hThrough, hFar, hNear,
        _⟩
  · rw [hBack] at hLink
    cases hLink
  · rw [hBack] at hLink
    cases hLink
    have hDone := hComplete forward hForward
    constructor
    · rw [hThrough]
      exact hDone.through
    · rw [hFar]
      exact hDone.backwardKey
    · rw [hNear]
      exact hDone.forwardKey
    · rw [hFar, hNear]
      exact hDone.distinct.symm

/- All links of completed models and reverses are complete. -/
theorem isComplete_of_withReverses
    (hLinks :
      ∀ complete ∈ linked, ∀ relation ∈ complete.relations,
        ∀ link, relation.kind = .manyToMany link →
          link.IsComplete)
    (hMember : complete ∈ linked)
    {relation : Relation}
    (hRelation :
      relation ∈
        (complete.withReverses
          (linked.flatMap reversesOf)).relations)
    {link : ManyToMany}
    (hLink : relation.kind = .manyToMany link) :
    link.IsComplete := by
  rcases mem_relations_withReverses hRelation with
    hKept | ⟨source, hSource, hReverse⟩
  · exact hLinks complete hMember relation hKept link hLink
  · rcases List.mem_filterMap.mp hReverse with
      ⟨original, hOriginal, hSome⟩
    rcases Option.map_eq_some_iff.mp hSome with
      ⟨other, hOther, hSame⟩
    rw [(Prod.mk.inj hSame).2] at hOther
    exact isComplete_of_reverse? hOther
      (hLinks source hSource original hOriginal) hLink

/- A completed model accepts all that is addressed to it. -/
theorem IsLinking.accepts
    (hLinking : IsLinking models linked catalog)
    (hLinkable : IsLinkable models)
    (hModel : model ∈ models)
    (hComplete :
      IsCompletion ⟨models.map withTable⟩ (withTable model)
        complete) :
    Accepts (linked.flatMap reversesOf) complete := by
  have hEach :=
    hLinking.each.imp fun _ _ => isCompletion_of_linkModel
  exact (accepts_iff_of_isCompletion hLinking.keyed hEach
    hComplete).mpr
      ⟨hLinkable.distinct model hModel,
        hLinkable.unused model hModel⟩

/- Linked models are sound if declared names are distinct. -/
theorem IsLinking.isSound
    (hLinking : IsLinking models linked catalog)
    (hLinkable : IsLinkable models)
    (hMember : complete ∈ linked)
    (hComplete :
      IsCompletion ⟨models.map withTable⟩ (withTable model)
        complete)
    (hModel : model ∈ models)
    (hFields : (model.fields.map Field.name).Nodup)
    (hRelations :
      (model.relations.map Relation.name).Nodup) :
    (complete.withReverses
      (linked.flatMap reversesOf)).IsSound := by
  have hEach :=
    hLinking.each.imp fun _ _ => isCompletion_of_linkModel
  have hAccepts :=
    hLinking.accepts hLinkable hModel hComplete
  have hLinked :
      complete.withReverses (linked.flatMap reversesOf) ∈
        catalog.models := by
    rw [hLinking.reversed]
    exact List.mem_map_of_mem hMember
  constructor
  · exact hComplete.backs.nodup hFields
  · apply hAccepts.nodup
    rw [Relation.map_name_of_isCompletion hComplete.relations]
    exact hRelations
  · exact hComplete.backs.countP_primaryKey.trans
      (hLinkable.keys model hModel)
  · intro relation hRelation source hSource
    rw [← Model.field?_isSome_iff]
    exact hLinking.isLinked.backed _ hLinked relation
      hRelation source hSource
  · intro relation hRelation link
    refine isComplete_of_withReverses ?_ hMember hRelation
    intro other hOther relation hRelation
    rcases hEach.exists_of_mem_right hOther with
      ⟨original, _, hOriginal⟩
    rcases hOriginal.relations.exists_of_mem_right
        hRelation with
      ⟨declaration, _, hDeclaration⟩
    exact hDeclaration.links

/-
  Linking extends each declared model in its place, finds
  models by their names, and makes sound ones.
-/
theorem extends_of_link
    (hFields :
      ∀ model ∈ models,
        (model.fields.map Field.name).Nodup)
    (hRelations :
      ∀ model ∈ models,
        (model.relations.map Relation.name).Nodup)
    (hLink : link models = .ok catalog) :
    List.Forall₂ catalog.Extends models catalog.models ∧
      (∀ name model,
        catalog.model? name = some model ↔
          model ∈ catalog.models ∧ model.name = name) ∧
      ∀ model ∈ catalog.models, model.IsSound := by
  have hLinkable := isOk_link_iff.mp ⟨catalog, hLink⟩
  have hLinked := isLinked_of_link hLink
  rcases isLinking_of_link hLink with ⟨linked, hLinking⟩
  have hEach :
      List.Forall₂
        (fun model complete =>
          IsCompletion ⟨models.map withTable⟩
            (withTable model) complete)
        models linked :=
    List.forall₂_map_left_iff.mp
      (hLinking.each.imp fun _ _ => isCompletion_of_linkModel)
  refine ⟨?_, ?_, ?_⟩
  · rw [hLinking.reversed, List.forall₂_map_right_iff]
    exact hEach.imp fun _ _ => hLinking.extends
  · intro name model
    constructor
    · exact model?_eq_some
    · rintro ⟨hModel, rfl⟩
      exact model?_of_mem hLinked.names hModel
  · intro model hModel
    rcases hLinking.exists_isCompletion hModel with
      ⟨original, hOriginal, complete, hMember, hComplete, rfl⟩
    exact hLinking.isSound hLinkable hMember hComplete
      hOriginal (hFields original hOriginal)
      (hRelations original hOriginal)

/- People who know each other, and what they have written. -/
private def network : List Model :=
  [{ name := "Person"
     fields := [.keyOfType "id" (.named FieldType.intName)]
     relations := [
       (Relation.toMany "knows" "Person").withRelatedName
         "known_by"] },
    { name := "Letter"
      fields := [.keyOfType "id" (.named FieldType.intName)]
      relations := [
        (Relation.toOne "writer" "Person").withRelatedName
          "letters",
        Relation.toOne "reader" "Person"] }]

/- A person is known by people and has written letters. -/
theorem extends_of_link_network :
    ∃ catalog,
      link network = .ok catalog ∧
        List.Forall₂ catalog.Extends network
          catalog.models ∧
        (∀ model ∈ catalog.models, model.IsSound) ∧
        catalog.models.map (fun model =>
            (model.fields.map Field.name,
              model.relations.map Relation.name)) =
          [(["id"], ["knows", "known_by", "letters"]),
            (["id", "writer_id", "reader_id"],
              ["writer", "reader"])] := by
  rcases Except.exists_of_any
      (show (link network).toOption.any (fun catalog =>
          catalog.models.map (fun model =>
              (model.fields.map Field.name,
                model.relations.map Relation.name)) =
            [(["id"], ["knows", "known_by", "letters"]),
              (["id", "writer_id", "reader_id"],
                ["writer", "reader"])]) = true by
        decide +kernel) with
    ⟨catalog, hLink, hNames⟩
  rcases extends_of_link (by decide +kernel)
      (by decide +kernel) hLink with
    ⟨hExtends, _, hSound⟩
  exact ⟨catalog, hLink, hExtends, hSound,
    of_decide_eq_true hNames⟩

end Catalog

end Relmap
