import Relmap.Proofs.Catalog.Completion

/-
  Which declarations can be linked.

  The passes of linking check one thing after another, and
  later checks see what earlier passes have added. What they
  ask for altogether is a condition on the declarations
  alone, in which no order matters.

  Main declarations:
    * `Catalog.IsLinkable`
    * `Catalog.declare_eq_ok_iff`
    * `Catalog.Accepts`
    * `Catalog.exists_foldlM_addReverse_iff`
    * `Catalog.isOk_link_iff`
    * `Catalog.link_lacks`
    * `Catalog.exists_link_iff`
-/

------------------------------------------------------------
-- Linkable Declarations
------------------------------------------------------------

namespace Relmap

namespace Catalog

/- The related names of relations of a model with a target. -/
def relatedNamesOf
    (target : String)
    (model : Model) : List String :=
  model.relations.filterMap fun relation =>
    if relation.target = target then relation.relatedName?
    else none

/-
  Declarations can be linked if names and keys are in order,
  relations lead to declared models, the columns of a link
  table differ, and related names are new to their target.
-/
structure IsLinkable (models : List Model) : Prop where
  names : (models.map Model.name).Nodup
  keys :
    ∀ model ∈ models,
      model.fields.countP Field.primaryKey = 1
  targets :
    ∀ model ∈ models, ∀ relation ∈ model.relations,
      relation.target ∈ models.map Model.name
  linkKeys :
    ∀ model ∈ models, ∀ relation ∈ model.relations,
      ∀ link, relation.kind = .manyToMany link →
        link.forwardKey ≠ "" →
          link.forwardKey ≠
            if link.backwardKey = "" then
              model.tableName ++ "_id"
            else link.backwardKey
  distinct :
    ∀ target ∈ models,
      (models.flatMap
        (relatedNamesOf target.name)).Nodup
  unused :
    ∀ target ∈ models,
      ∀ name ∈ models.flatMap (relatedNamesOf target.name),
        name ∉ target.fields.map Field.name ∧
          name ∉ target.relations.map Relation.name ∧
            name ∉ target.relations.filterMap
              Relation.sourceName?

/- A model passes the check if it has one key. -/
theorem checkKey_eq_ok_iff {model : Model} :
    checkKey model = .ok () ↔
      model.fields.countP Field.primaryKey = 1 := by
  rw [List.countP_eq_length_filter, List.length_eq_one_iff]
  unfold checkKey
  split
  · rename_i hNone
    simp [hNone]
  · rename_i key hKey
    simp [hKey]
  · rename_i hNone hOne
    simp only [reduceCtorEq, false_iff, not_exists]
    exact hOne

/- Declarations pass if names and keys are in order. -/
theorem declare_eq_ok_iff
    {models : List Model}
    {declared : Catalog} :
    declare models = .ok declared ↔
      declared = ⟨models.map withTable⟩ ∧
        (models.map Model.name).Nodup ∧
          ∀ model ∈ models,
            model.fields.countP Field.primaryKey = 1 := by
  have hKeys :
      (models.map withTable).forM checkKey = .ok () ↔
        ∀ model ∈ models,
          model.fields.countP Field.primaryKey = 1 := by
    rw [List.forM_eq_ok_iff, List.forall_mem_map]
    simp only [checkKey_eq_ok_iff, fields_withTable]
  have hNames :
      checkNames [] models = .ok () ↔
        (models.map Model.name).Nodup := by
    simp [checkNames_eq_ok_iff]
  simp only [declare, Except.bind_eq_ok_iff]
  constructor
  · rintro ⟨⟨⟩, hNamed, ⟨⟩, hKeyed, hDeclared⟩
    cases hDeclared
    exact ⟨rfl, hNames.mp hNamed, hKeys.mp hKeyed⟩
  · rintro ⟨rfl, hNamed, hKeyed⟩
    exact ⟨(), hNames.mpr hNamed, (), hKeys.mpr hKeyed, rfl⟩

end Catalog

end Relmap

------------------------------------------------------------
-- Accepted Reverses
------------------------------------------------------------

namespace Relmap

namespace Catalog

/- The names of relations that are addressed to a model. -/
def addressed
    (target : String)
    (reverses : List (String × Relation)) : List String :=
  (reverses.filter fun reverse =>
    reverse.1 = target).map fun reverse => reverse.2.name

/- A model accepts relations that are new to it. -/
structure Accepts
    (reverses : List (String × Relation))
    (model : Model) : Prop where
  distinct : (addressed model.name reverses).Nodup
  unused :
    ∀ name ∈ addressed model.name reverses,
      name ∉ model.fields.map Field.name ∧
        name ∉ model.relations.map Relation.name

variable {model : Model}
variable {reverse : String × Relation}
variable {reverses : List (String × Relation)}

theorem accepts_nil (model : Model) : Accepts [] model :=
  ⟨.nil, by simp [addressed]⟩

theorem addressed_cons_of_ne
    {target : String}
    (hTarget : reverse.1 ≠ target) :
    addressed target (reverse :: reverses) =
      addressed target reverses := by
  simp [addressed, hTarget]

theorem addressed_cons
    (reverse : String × Relation)
    (reverses : List (String × Relation)) :
    addressed reverse.1 (reverse :: reverses) =
      reverse.2.name :: addressed reverse.1 reverses := by
  simp [addressed]

/- What is addressed to others does not matter. -/
theorem accepts_cons_of_ne
    (hTarget : reverse.1 ≠ model.name) :
    Accepts (reverse :: reverses) model ↔
      Accepts reverses model := by
  have hNames :=
    @addressed_cons_of_ne reverse reverses _ hTarget
  constructor
  · rintro ⟨hDistinct, hUnused⟩
    rw [hNames] at hDistinct hUnused
    exact ⟨hDistinct, hUnused⟩
  · rintro ⟨hDistinct, hUnused⟩
    rw [← hNames] at hDistinct hUnused
    exact ⟨hDistinct, hUnused⟩

/- A relation is accepted before others that are also new. -/
theorem accepts_cons_of_eq
    (hTarget : reverse.1 = model.name) :
    Accepts (reverse :: reverses) model ↔
      (reverse.2.name ∉ model.fields.map Field.name ∧
          reverse.2.name ∉
            model.relations.map Relation.name) ∧
        Accepts reverses (model.withReverses [reverse]) := by
  have hNames :
      addressed model.name (reverse :: reverses) =
        reverse.2.name :: addressed model.name reverses := by
    rw [← hTarget, addressed_cons]
  have hRelations :
      (model.withReverses [reverse]).relations.map
          Relation.name =
        model.relations.map Relation.name ++
          [reverse.2.name] := by
    simp [Model.withReverses, hTarget]
  constructor
  · rintro ⟨hDistinct, hUnused⟩
    rw [hNames, List.nodup_cons] at hDistinct
    rw [hNames, List.forall_mem_cons] at hUnused
    refine ⟨hUnused.1, hDistinct.2, ?_⟩
    intro name hName
    rw [hRelations, List.mem_append, List.mem_singleton]
    refine ⟨(hUnused.2 name hName).1, ?_⟩
    rintro (hOld | rfl)
    · exact (hUnused.2 name hName).2 hOld
    · exact hDistinct.1 hName
  · rintro ⟨hFirst, hDistinct, hUnused⟩
    rw [hRelations] at hUnused
    constructor
    · rw [hNames, List.nodup_cons]
      refine ⟨?_, hDistinct⟩
      intro hAgain
      apply (hUnused _ hAgain).2
      exact List.mem_append_right _ List.mem_cons_self
    · rw [hNames, List.forall_mem_cons]
      refine ⟨hFirst, fun name hName => ?_⟩
      exact ⟨(hUnused name hName).1, fun hOld =>
        (hUnused name hName).2
          (List.mem_append_left _ hOld)⟩

theorem accepts_singleton_of_ne
    (hTarget : reverse.1 ≠ model.name) :
    Accepts [reverse] model :=
  (accepts_cons_of_ne hTarget).mpr (accepts_nil model)

/- One relation is accepted if no member has its name. -/
theorem accepts_singleton_iff
    (hTarget : reverse.1 = model.name) :
    Accepts [reverse] model ↔
      reverse.2.name ∉ model.fields.map Field.name ∧
        reverse.2.name ∉
          model.relations.map Relation.name := by
  rw [accepts_cons_of_eq hTarget]
  exact and_iff_left (accepts_nil _)

/- Relations are accepted together or one by one. -/
theorem accepts_cons_iff :
    Accepts (reverse :: reverses) model ↔
      Accepts [reverse] model ∧
        Accepts reverses (model.withReverses [reverse]) := by
  by_cases hTarget : reverse.1 = model.name
  · rw [accepts_cons_of_eq hTarget,
      accepts_singleton_iff hTarget]
  · rw [accepts_cons_of_ne hTarget,
      Model.withReverses_of_ne (Ne.symm hTarget)]
    exact (and_iff_right
      (accepts_singleton_of_ne hTarget)).symm

/- A relation is added exactly if its target accepts it. -/
theorem exists_addReverse_iff
    {models : List Model}
    (hNames : (models.map Model.name).Nodup) :
    (∃ results,
        addReverse reverse.1 reverse.2 models =
          .ok results) ↔
      ∀ model ∈ models, Accepts [reverse] model := by
  induction models with
  | nil => simp [addReverse]
  | cons first rest ih =>
      rw [List.map_cons, List.nodup_cons] at hNames
      rw [List.forall_mem_cons]
      unfold addReverse
      by_cases hTarget : first.name = reverse.1
      · have hOthers :
            ∀ model ∈ rest, Accepts [reverse] model := by
          intro model hModel
          apply accepts_singleton_of_ne
          intro hSame
          apply hNames.1
          rw [hTarget, hSame]
          exact List.mem_map_of_mem hModel
        rw [if_pos hTarget,
          accepts_singleton_iff hTarget.symm,
          ← Model.field?_isSome_iff,
          ← Model.relation?_isSome_iff, ← not_or]
        split
        · rename_i hClash
          simp [hClash]
        · rename_i hUnused
          exact iff_of_true ⟨_, rfl⟩ ⟨hUnused, hOthers⟩
      · rw [if_neg hTarget, ← ih hNames.2]
        have hFirst :=
          accepts_singleton_of_ne (Ne.symm hTarget)
        simp only [Except.map_eq_ok_iff]
        constructor
        · rintro ⟨_, others, hOthers, _⟩
          exact ⟨hFirst, others, hOthers⟩
        · rintro ⟨_, others, hOthers⟩
          exact ⟨_, others, hOthers, rfl⟩

/- All are added exactly if each model accepts its own. -/
theorem exists_foldlM_addReverse_iff
    {models : List Model}
    (hNames : (models.map Model.name).Nodup) :
    (∃ results,
        reverses.foldlM
            (fun models reverse =>
              addReverse reverse.1 reverse.2 models)
            models =
          .ok results) ↔
      ∀ model ∈ models, Accepts reverses model := by
  induction reverses generalizing models with
  | nil =>
      simp only [accepts_nil, implies_true, iff_true]
      exact ⟨models, rfl⟩
  | cons reverse rest ih =>
      simp only [List.foldlM_cons, Except.bind_eq_ok_iff]
      rw [forall₂_congr fun model _ =>
        @accepts_cons_iff model reverse rest]
      have hNext (next : List Model)
          (hAdd :
            addReverse reverse.1 reverse.2 models =
              .ok next) :
          (∃ results,
              rest.foldlM
                  (fun models reverse =>
                    addReverse reverse.1 reverse.2 models)
                  next =
                .ok results) ↔
            ∀ model ∈ models,
              Accepts rest (model.withReverses [reverse]) := by
        rw [addReverse_eq_ok hNames hAdd, ih,
          List.forall_mem_map]
        rw [map_name_withReverses]
        exact hNames
      constructor
      · rintro ⟨results, next, hAdd, hRest⟩ model hModel
        have hFirst :=
          (exists_addReverse_iff hNames).mp ⟨next, hAdd⟩
        exact ⟨hFirst model hModel,
          (hNext next hAdd).mp ⟨results, hRest⟩ model hModel⟩
      · intro hAccepts
        rcases (exists_addReverse_iff hNames).mpr
            (fun model hModel =>
              (hAccepts model hModel).1) with
          ⟨next, hAdd⟩
        rcases (hNext next hAdd).mpr
            (fun model hModel =>
              (hAccepts model hModel).2) with
          ⟨results, hRest⟩
        exact ⟨results, next, hAdd, hRest⟩

end Catalog

end Relmap

------------------------------------------------------------
-- Linking
------------------------------------------------------------

namespace Relmap

namespace Catalog

variable {declared : Catalog}

/- A reverse relation is named as its relation says. -/
theorem map_name_reverse?
    (model : Model)
    (relation : Relation) :
    (reverse? model relation).map Relation.name =
      relation.relatedName? := by
  unfold reverse? Relation.relatedName?
  cases relation.kind with
  | foreignKey key =>
      cases hName : key.relatedName with
      | none => simp [hName]
      | some name => simp [hName]
  | backward key => rfl
  | manyToMany link =>
      cases hName : link.relatedName with
      | none => simp [hName]
      | some name => simp [hName]

/- Completed relations have the related names declared. -/
theorem addressed_reverses
    (model : Model)
    (target : String)
    {originals results : List Relation}
    (hComplete :
      List.Forall₂ Relation.IsCompletion originals results) :
    addressed target
        (results.filterMap fun relation =>
          (reverse? model relation).map fun other =>
            (relation.target, other)) =
      originals.filterMap fun relation =>
        if relation.target = target then
          relation.relatedName?
        else none := by
  induction hComplete with
  | nil => rfl
  | @cons original result _ _ hFirst _ ih =>
      have hName := map_name_reverse? model result
      rw [hFirst.relatedName] at hName
      rw [List.filterMap_cons, List.filterMap_cons, ← hName,
        hFirst.target, ← ih]
      cases reverse? model result with
      | none => simp
      | some other =>
          by_cases hTarget : original.target = target
          · simp [addressed, hTarget]
          · simp [addressed, hTarget]

theorem addressed_flatMap_reversesOf
    {models linked : List Model}
    (hEach :
      List.Forall₂ (IsCompletion declared) models linked)
    (target : String) :
    addressed target (linked.flatMap reversesOf) =
      models.flatMap (relatedNamesOf target) := by
  induction hEach with
  | nil => rfl
  | @cons model complete _ _ hFirst _ ih =>
      have hNames :=
        addressed_reverses complete target hFirst.relations
      rw [List.flatMap_cons, List.flatMap_cons, ← ih,
        relatedNamesOf, ← hNames]
      simp [addressed, reversesOf]

variable {models linked : List Model}

/- The models are completed, each against all of them. -/
def Completes (models linked : List Model) : Prop :=
  List.Forall₂
    (fun model complete =>
      linkModel ⟨models.map withTable⟩ model = .ok complete)
    (models.map withTable) linked

/- What is left to check once all models are completed. -/
theorem accepts_iff_of_isCompletion
    (hKeyed :
      ∀ model ∈ declared.models,
        model.primaryKey?.isSome = true)
    (hEach :
      List.Forall₂ (IsCompletion declared)
        (models.map withTable) linked)
    {model complete : Model}
    (hComplete :
      IsCompletion declared (withTable model) complete) :
    Accepts (linked.flatMap reversesOf) complete ↔
      (models.flatMap (relatedNamesOf model.name)).Nodup ∧
        ∀ name ∈ models.flatMap (relatedNamesOf model.name),
          name ∉ model.fields.map Field.name ∧
            name ∉ model.relations.map Relation.name ∧
              name ∉ model.relations.filterMap
                Relation.sourceName? := by
  have hName : complete.name = model.name := by
    rw [hComplete.same]
    rfl
  have hAddressed :
      addressed complete.name (linked.flatMap reversesOf) =
        models.flatMap (relatedNamesOf model.name) := by
    rw [hName, addressed_flatMap_reversesOf hEach,
      List.flatMap_map]
    rfl
  have hUnused (name : String) :
      (name ∉ complete.fields.map Field.name ∧
          name ∉ complete.relations.map Relation.name) ↔
        name ∉ model.fields.map Field.name ∧
          name ∉ model.relations.map Relation.name ∧
            name ∉ model.relations.filterMap
              Relation.sourceName? := by
    rw [hComplete.mem_names_iff hKeyed,
      Relation.map_name_of_isCompletion hComplete.relations]
    simp only [fields_withTable, relations_withTable]
    tauto
  constructor
  · rintro ⟨hDistinct, hNew⟩
    rw [hAddressed] at hDistinct hNew
    exact ⟨hDistinct, fun name hMember =>
      (hUnused name).mp (hNew name hMember)⟩
  · rintro ⟨hDistinct, hNew⟩
    rw [← hAddressed] at hDistinct hNew
    exact ⟨hDistinct, fun name hMember =>
      (hUnused name).mpr (hNew name hMember)⟩

/- A model with one key has a first one. -/
theorem primaryKey?_isSome_of_countP
    {model : Model}
    (hKey : model.fields.countP Field.primaryKey = 1) :
    model.primaryKey?.isSome = true := by
  have hSome : 0 < model.fields.countP Field.primaryKey := by
    omega
  rw [Model.primaryKey?, List.find?_isSome]
  exact List.countP_pos_iff.mp hSome

/- Linking succeeds if all of its passes do. -/
theorem exists_link_iff_passes :
    (∃ catalog, link models = .ok catalog) ↔
      (models.map Model.name).Nodup ∧
        (∀ model ∈ models,
          model.fields.countP Field.primaryKey = 1) ∧
        ∃ linked,
          Completes models linked ∧
            ∀ complete ∈ linked,
              Accepts (linked.flatMap reversesOf)
                complete := by
  have hNamed (linked : List Model)
      (hNames : (models.map Model.name).Nodup)
      (hEach : Completes models linked) :
      (linked.map Model.name).Nodup := by
    rw [map_name_of_linkModel hEach, List.map_map]
    exact hNames
  simp only [link, Except.bind_eq_ok_iff,
    declare_eq_ok_iff, List.mapM_eq_ok_iff]
  constructor
  · rintro ⟨_, _, ⟨rfl, hNames, hKeys⟩, linked, hEach,
      results, hReverses, _⟩
    exact ⟨hNames, hKeys, linked, hEach,
      (exists_foldlM_addReverse_iff
        (hNamed linked hNames hEach)).mp
          ⟨results, hReverses⟩⟩
  · rintro ⟨hNames, hKeys, linked, hEach, hAccepts⟩
    rcases (exists_foldlM_addReverse_iff
        (hNamed linked hNames hEach)).mpr hAccepts with
      ⟨results, hReverses⟩
    exact ⟨⟨results⟩, _, ⟨rfl, hNames, hKeys⟩, linked,
      hEach, results, hReverses, rfl⟩

/- All models can be completed if each relation can. -/
theorem exists_linked_iff :
    (∃ linked, Completes models linked) ↔
      ∀ model ∈ models, ∀ relation ∈ model.relations,
        relation.target ∈ models.map Model.name ∧
          ∀ link, relation.kind = .manyToMany link →
            link.forwardKey ≠ "" →
              link.forwardKey ≠
                if link.backwardKey = "" then
                  model.tableName ++ "_id"
                else link.backwardKey := by
  simp only [Completes, ← List.mapM_eq_ok_iff,
    List.exists_mapM_eq_ok_iff, List.forall_mem_map,
    exists_linkModel_iff, exists_completeRelation_iff,
    model?_isSome_iff, List.map_map, relations_withTable,
    table_withTable]
  rfl

/- The completed models accept what they are addressed. -/
theorem forall_accepts_iff
    (hKeys :
      ∀ model ∈ models,
        model.fields.countP Field.primaryKey = 1)
    (hEach : Completes models linked) :
    (∀ complete ∈ linked,
        Accepts (linked.flatMap reversesOf) complete) ↔
      ∀ target ∈ models,
        (models.flatMap
            (relatedNamesOf target.name)).Nodup ∧
          ∀ name ∈
              models.flatMap (relatedNamesOf target.name),
            name ∉ target.fields.map Field.name ∧
              name ∉ target.relations.map Relation.name ∧
                name ∉ target.relations.filterMap
                  Relation.sourceName? := by
  have hKeyed :
      ∀ model ∈ models.map withTable,
        model.primaryKey?.isSome = true := by
    rw [List.forall_mem_map]
    intro model hModel
    exact primaryKey?_isSome_of_countP (hKeys model hModel)
  have hComplete :=
    hEach.imp fun _ _ => isCompletion_of_linkModel
  have hAccepts {model complete : Model} :=
    @accepts_iff_of_isCompletion ⟨models.map withTable⟩
      models linked hKeyed hComplete model complete
  constructor
  · intro hAll target hTarget
    rcases hComplete.exists_of_mem_left
        (List.mem_map_of_mem hTarget) with
      ⟨complete, hMember, hDone⟩
    exact (hAccepts hDone).mp (hAll complete hMember)
  · intro hAll complete hMember
    rcases hComplete.exists_of_mem_right hMember with
      ⟨_, hDeclared, hDone⟩
    rcases List.mem_map.mp hDeclared with
      ⟨target, hTarget, rfl⟩
    exact (hAccepts hDone).mpr (hAll target hTarget)

/- Linking succeeds exactly for linkable declarations. -/
theorem isOk_link_iff :
    (∃ catalog, link models = .ok catalog) ↔
      IsLinkable models := by
  rw [exists_link_iff_passes]
  constructor
  · rintro ⟨hNames, hKeys, linked, hEach, hAccepts⟩
    have hRelations := exists_linked_iff.mp ⟨linked, hEach⟩
    have hRelated :=
      (forall_accepts_iff hKeys hEach).mp hAccepts
    exact {
      names := hNames
      keys := hKeys
      targets := fun model hModel relation hRelation =>
        (hRelations model hModel relation hRelation).1
      linkKeys := fun model hModel relation hRelation =>
        (hRelations model hModel relation hRelation).2
      distinct := fun target hTarget =>
        (hRelated target hTarget).1
      unused := fun target hTarget =>
        (hRelated target hTarget).2 }
  · intro hLinkable
    rcases exists_linked_iff.mpr
        (fun model hModel relation hRelation =>
          ⟨hLinkable.targets model hModel relation hRelation,
            hLinkable.linkKeys model hModel relation
              hRelation⟩) with
      ⟨linked, hEach⟩
    refine ⟨hLinkable.names, hLinkable.keys, linked, hEach,
      ?_⟩
    rw [forall_accepts_iff hLinkable.keys hEach]
    exact fun target hTarget =>
      ⟨hLinkable.distinct target hTarget,
        hLinkable.unused target hTarget⟩

end Catalog

end Relmap

------------------------------------------------------------
-- Faults Of Linking
------------------------------------------------------------

namespace Relmap

namespace Catalog

open Except

variable {kind : ErrorKind}

theorem checkNames_lacks
    (hKind : kind ≠ .configuration)
    (seen : List String)
    (models : List Model) :
    Lacks kind (checkNames seen models) := by
  induction models generalizing seen with
  | nil => exact lacks_ok ()
  | cons model rest ih =>
      unfold checkNames
      split
      · exact lacks_error hKind.symm
      · exact ih _

theorem checkKey_lacks
    (hKind : kind ≠ .configuration)
    (model : Model) :
    Lacks kind (checkKey model) := by
  unfold checkKey
  split
  · exact lacks_error hKind.symm
  · exact lacks_ok ()
  · exact lacks_error hKind.symm

theorem completeRelation_lacks
    (hKind : kind ≠ .configuration)
    (declared : Catalog)
    (model : Model)
    (relation : Relation) :
    Lacks kind
      (completeRelation declared model relation) := by
  unfold completeRelation
  split
  · exact lacks_error hKind.symm
  · split
    · exact lacks_ok _
    · exact lacks_ok _
    · dsimp only
      split
      · exact lacks_error hKind.symm
      · exact lacks_ok _

theorem addReverse_lacks
    (hKind : kind ≠ .configuration)
    (target : String)
    (relation : Relation)
    (models : List Model) :
    Lacks kind (addReverse target relation models) := by
  induction models with
  | nil => exact lacks_ok []
  | cons model rest ih =>
      unfold addReverse
      split
      · split
        · exact lacks_error hKind.symm
        · exact lacks_ok _
      · exact ih.map _

/- Linking complains about nothing but the declarations. -/
theorem link_lacks
    (hKind : kind ≠ .configuration)
    (models : List Model) :
    Lacks kind (link models) := by
  refine lacks_bind (lacks_bind ?_ fun _ _ => ?_) ?_
  · exact checkNames_lacks hKind [] models
  · refine lacks_bind ?_ fun _ _ => lacks_ok _
    exact lacks_forM fun model _ =>
      checkKey_lacks hKind model
  · intro declared _
    refine lacks_bind ?_ fun linked _ => ?_
    · refine lacks_mapM fun model _ => ?_
      refine lacks_bind ?_ fun _ _ => lacks_ok _
      exact lacks_mapM fun relation _ =>
        completeRelation_lacks hKind declared model relation
    · refine lacks_bind ?_ fun _ _ => lacks_ok _
      apply lacks_foldlM
      intro models reverse
      exact addReverse_lacks hKind reverse.1 reverse.2 models

/-
  Linking succeeds exactly for linkable declarations, and
  fails with a fault of the configuration for all others.
-/
theorem exists_link_iff (models : List Model) :
    ((∃ catalog, link models = .ok catalog) ↔
        IsLinkable models) ∧
      ∀ fault, link models = .error fault →
        fault.kind = .configuration := by
  refine ⟨isOk_link_iff, ?_⟩
  intro fault hFault
  by_contra hKind
  exact link_lacks hKind models fault hFault rfl

end Catalog

end Relmap
