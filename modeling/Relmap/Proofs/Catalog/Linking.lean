import Relmap.Catalog.Linking
import Relmap.Proofs.Catalog.Basic
import Relmap.Proofs.Outcome

/-
  What linking does to declarations, pass by pass, and what
  can be relied on afterwards: models have distinct names and
  a key each, relations have a target, and foreign keys have
  a field.

  Main declarations:
    * `Catalog.checkNames_eq_ok_iff`
    * `Model.withReverses`
    * `Catalog.IsLinking`
    * `Catalog.isLinking_of_link`
    * `Catalog.IsLinked`
    * `Catalog.isLinked_of_link`
-/

------------------------------------------------------------
-- Declarations
------------------------------------------------------------

namespace Relmap

namespace Catalog

/- Names pass the check if they are new and distinct. -/
theorem checkNames_eq_ok_iff
    {seen : List String}
    {models : List Model} :
    checkNames seen models = .ok () ↔
      (∀ model ∈ models, model.name ∉ seen) ∧
        (models.map Model.name).Nodup := by
  induction models generalizing seen with
  | nil => simp [checkNames]
  | cons model rest ih =>
      unfold checkNames
      by_cases hSeen : model.name ∈ seen
      · simp [hSeen]
      · rw [if_neg hSeen, ih, List.forall_mem_cons, List.map_cons,
          List.nodup_cons]
        simp only [List.mem_cons, not_or, List.mem_map,
          not_exists, not_and]
        constructor
        · rintro ⟨hNew, hDistinct⟩
          refine ⟨⟨hSeen, fun other hOther => ?_⟩, ?_,
            hDistinct⟩
          · exact (hNew other hOther).2
          · exact fun other hOther => (hNew other hOther).1
        · rintro ⟨⟨_, hNew⟩, hOther, hDistinct⟩
          refine ⟨fun other hMember => ?_, hDistinct⟩
          exact ⟨hOther other hMember, hNew other hMember⟩

/- A model that passes the check has a key. -/
theorem primaryKey?_isSome_of_checkKey
    {model : Model}
    (hKey : checkKey model = .ok ()) :
    model.primaryKey?.isSome = true := by
  rw [Model.primaryKey?, List.find?_isSome]
  unfold checkKey at hKey
  split at hKey
  · cases hKey
  · rename_i field hFields
    have hMember :
        field ∈ model.fields.filter Field.primaryKey := by
      rw [hFields]
      exact List.mem_singleton_self field
    exact ⟨field, List.mem_filter.mp hMember⟩
  · cases hKey

/- Tables are filled in without a change of names. -/
theorem model?_withTable
    (models : List Model)
    (name : String) :
    model? ⟨models.map withTable⟩ name =
      (model? ⟨models⟩ name).map withTable := by
  rw [model?, List.find?_map]
  rfl

/- Declarations are checked, and get their table names. -/
theorem declare_eq_ok
    {models : List Model}
    {declared : Catalog}
    (hDeclare : declare models = .ok declared) :
    declared = ⟨models.map withTable⟩ ∧
      (models.map Model.name).Nodup ∧
        ∀ model ∈ declared.models,
          model.primaryKey?.isSome = true := by
  simp only [declare, Except.bind_eq_ok_iff] at hDeclare
  rcases hDeclare with ⟨_, hNames, _, hKeys, hDeclared⟩
  cases hDeclared
  refine ⟨rfl, (checkNames_eq_ok_iff.mp hNames).2, ?_⟩
  intro model hModel
  exact primaryKey?_isSome_of_checkKey
    (List.forM_eq_ok_iff.mp hKeys model hModel)

end Catalog

end Relmap

------------------------------------------------------------
-- Backing Fields
------------------------------------------------------------

namespace Relmap

namespace Catalog

/- Backing adds the name of the column and no other. -/
theorem mem_names_addBacking
    {column : Field}
    {fields : List Field}
    {name : String} :
    name ∈ (addBacking column fields).map Field.name ↔
      name = column.name ∨ name ∈ fields.map Field.name := by
  induction fields with
  | nil => simp [addBacking]
  | cons field rest ih =>
      unfold addBacking
      by_cases hSame : field.name = column.name
      · simp [hSame]
      · rw [if_neg hSame, List.map_cons, List.mem_cons, ih,
          List.map_cons, List.mem_cons]
        exact or_left_comm

/- Backing leaves primary keys as they are. -/
theorem any_primaryKey_addBacking
    {column : Field}
    {fields : List Field}
    (hKey : fields.any Field.primaryKey = true) :
    (addBacking column fields).any Field.primaryKey =
      true := by
  induction fields with
  | nil => cases hKey
  | cons field rest ih =>
      unfold addBacking
      split
      · exact hKey
      · rw [List.any_cons, Bool.or_eq_true] at hKey ⊢
        exact hKey.imp_right ih

variable {declared : Catalog}

/- A backed relation adds fields and takes none away. -/
theorem mem_names_backRelation
    {fields : List Field}
    {relation : Relation}
    {name : String}
    (hName : name ∈ fields.map Field.name) :
    name ∈ (backRelation declared fields relation).map
      Field.name := by
  unfold backRelation
  split
  · split
    · exact mem_names_addBacking.mpr (.inr hName)
    · exact hName
  · exact hName

theorem any_primaryKey_backRelation
    {fields : List Field}
    {relation : Relation}
    (hKey : fields.any Field.primaryKey = true) :
    (backRelation declared fields relation).any
      Field.primaryKey = true := by
  unfold backRelation
  split
  · split
    · exact any_primaryKey_addBacking hKey
    · exact hKey
  · exact hKey

/- So do all relations of a model. -/
theorem mem_names_foldl_backRelation
    {relations : List Relation}
    {fields : List Field}
    {name : String}
    (hName : name ∈ fields.map Field.name) :
    name ∈ (relations.foldl (backRelation declared)
      fields).map Field.name := by
  induction relations generalizing fields with
  | nil => exact hName
  | cons relation rest ih =>
      exact ih (mem_names_backRelation hName)

theorem any_primaryKey_foldl_backRelation
    {relations : List Relation}
    {fields : List Field}
    (hKey : fields.any Field.primaryKey = true) :
    (relations.foldl (backRelation declared) fields).any
      Field.primaryKey = true := by
  induction relations generalizing fields with
  | nil => exact hKey
  | cons relation rest ih =>
      exact ih (any_primaryKey_backRelation hKey)

/- A foreign key to a model with a key gets its field. -/
theorem sourceField_mem_backRelation
    {relation : Relation}
    {source : String}
    (hSource : relation.sourceField? = some source)
    (hTarget :
      ∃ target,
        declared.model? relation.target = some target ∧
          target.primaryKey?.isSome = true)
    (fields : List Field) :
    source ∈ (backRelation declared fields relation).map
      Field.name := by
  rcases hTarget with ⟨target, hModel, hKey⟩
  rcases Option.isSome_iff_exists.mp hKey with
    ⟨referenced, hReferenced⟩
  unfold Relation.sourceField? Relation.foreignKey? at hSource
  unfold backRelation
  cases hKind : relation.kind with
  | foreignKey key =>
      rw [hKind] at hSource
      cases hSource
      rw [hModel]
      simp only [Option.bind_some, hReferenced]
      exact mem_names_addBacking.mpr (.inl rfl)
  | backward key =>
      rw [hKind] at hSource
      cases hSource
  | manyToMany link =>
      rw [hKind] at hSource
      cases hSource

/- It keeps it however many relations follow. -/
theorem sourceField_mem_foldl_backRelation
    {relations : List Relation}
    {relation : Relation}
    (hMember : relation ∈ relations)
    {source : String}
    (hSource : relation.sourceField? = some source)
    (hTarget :
      ∃ target,
        declared.model? relation.target = some target ∧
          target.primaryKey?.isSome = true)
    (fields : List Field) :
    source ∈ (relations.foldl (backRelation declared)
      fields).map Field.name := by
  induction relations generalizing fields with
  | nil => cases hMember
  | cons first rest ih =>
      rw [List.foldl_cons]
      rcases List.mem_cons.mp hMember with rfl | hRest
      · exact mem_names_foldl_backRelation
          (sourceField_mem_backRelation hSource hTarget
            fields)
      · exact ih hRest _

end Catalog

end Relmap

------------------------------------------------------------
-- Reverse Relations
------------------------------------------------------------

namespace Relmap

namespace Model

/- The model with the relations that are addressed to it. -/
def withReverses
    (reverses : List (String × Relation))
    (model : Model) : Model :=
  { model with
    relations :=
      model.relations ++
        (reverses.filter fun reverse =>
          reverse.1 = model.name).map Prod.snd }

@[simp] theorem withReverses_nil (model : Model) :
    model.withReverses [] = model := by
  simp [withReverses]

@[simp] theorem primaryKey?_withReverses
    (reverses : List (String × Relation))
    (model : Model) :
    (model.withReverses reverses).primaryKey? =
      model.primaryKey? :=
  rfl

@[simp] theorem field?_withReverses
    (reverses : List (String × Relation))
    (model : Model)
    (name : String) :
    (model.withReverses reverses).field? name =
      model.field? name :=
  rfl

/- Relations may be added one after the other. -/
theorem withReverses_cons
    (reverse : String × Relation)
    (reverses : List (String × Relation))
    (model : Model) :
    model.withReverses (reverse :: reverses) =
      (model.withReverses [reverse]).withReverses
        reverses := by
  unfold withReverses
  by_cases hName : reverse.1 = model.name
  · simp [hName]
  · simp [hName]

/- A relation for another model adds nothing. -/
theorem withReverses_of_ne
    {reverse : String × Relation}
    {model : Model}
    (hName : model.name ≠ reverse.1) :
    model.withReverses [reverse] = model := by
  simp [withReverses, hName.symm]

end Model

namespace Catalog

/-
  A reverse relation is added to the one model that it is
  addressed to.
-/
theorem addReverse_eq_ok
    {target : String}
    {relation : Relation}
    {models results : List Model}
    (hNames : (models.map Model.name).Nodup)
    (hAdd : addReverse target relation models = .ok results) :
    results =
      models.map (Model.withReverses [(target, relation)]) := by
  induction models generalizing results with
  | nil =>
      cases hAdd
      rfl
  | cons model rest ih =>
      rw [List.map_cons, List.nodup_cons] at hNames
      rcases hNames with ⟨hNew, hRest⟩
      unfold addReverse at hAdd
      by_cases hTarget : model.name = target
      · rw [if_pos hTarget] at hAdd
        split at hAdd
        · cases hAdd
        · cases hAdd
          have hOthers :
              rest.map
                  (Model.withReverses [(target, relation)]) =
                rest := by
            refine (List.map_congr_left ?_).trans
              (List.map_id rest)
            intro other hOther
            apply Model.withReverses_of_ne
            intro (hSame : other.name = target)
            apply hNew
            rw [hTarget, ← hSame]
            exact List.mem_map_of_mem hOther
          rw [List.map_cons, hOthers]
          simp [Model.withReverses, hTarget]
      · rw [if_neg hTarget] at hAdd
        rcases Except.map_eq_ok_iff.mp hAdd with
          ⟨others, hOthers, rfl⟩
        rw [List.map_cons, Model.withReverses_of_ne hTarget,
          ih hRest hOthers]

/- Reverse relations keep the names of models. -/
theorem map_name_withReverses
    (reverses : List (String × Relation))
    (models : List Model) :
    (models.map (Model.withReverses reverses)).map
        Model.name =
      models.map Model.name := by
  rw [List.map_map]
  rfl

/- All reverse relations are added, each to its model. -/
theorem foldlM_addReverse_eq_ok
    {reverses : List (String × Relation)}
    {models results : List Model}
    (hNames : (models.map Model.name).Nodup)
    (hAdd :
      reverses.foldlM
          (fun models reverse =>
            addReverse reverse.1 reverse.2 models)
          models =
        .ok results) :
    results = models.map (Model.withReverses reverses) := by
  induction reverses generalizing models with
  | nil =>
      cases hAdd
      exact (List.map_id'' Model.withReverses_nil _).symm
  | cons reverse rest ih =>
      rw [List.foldlM_cons, Except.bind_eq_ok_iff] at hAdd
      rcases hAdd with ⟨next, hNext, hRest⟩
      have hModels := addReverse_eq_ok hNames hNext
      rw [hModels] at hRest
      rw [ih (by rwa [map_name_withReverses]) hRest,
        List.map_map]
      apply List.map_congr_left
      intro model _
      exact (model.withReverses_cons reverse rest).symm

end Catalog

end Relmap

------------------------------------------------------------
-- All Passes
------------------------------------------------------------

namespace Relmap

namespace Catalog

/-
  A catalog comes from declarations by completing each one,
  and then adding to each the reverse relations that all of
  them address to it.
-/
structure IsLinking
    (models : List Model)
    (linked : List Model)
    (catalog : Catalog) : Prop where
  names : (models.map Model.name).Nodup
  keyed :
    ∀ model ∈ models.map withTable,
      model.primaryKey?.isSome = true
  each :
    List.Forall₂
      (fun model complete =>
        linkModel ⟨models.map withTable⟩ model = .ok complete)
      (models.map withTable) linked
  reversed :
    catalog.models =
      linked.map
        (Model.withReverses (linked.flatMap reversesOf))

variable {declared : Catalog}
variable {model complete : Model}

/- Completion fills relations in and backs them. -/
theorem linkModel_eq_ok
    (hLink : linkModel declared model = .ok complete) :
    ∃ relations,
      List.Forall₂
          (fun relation result =>
            completeRelation declared model relation =
              .ok result)
          model.relations relations ∧
        complete =
          { model with
            relations := relations
            fields :=
              relations.foldl (backRelation declared)
                model.fields } := by
  simp only [linkModel, Except.bind_eq_ok_iff,
    List.mapM_eq_ok_iff] at hLink
  rcases hLink with ⟨relations, hRelations, hComplete⟩
  cases hComplete
  exact ⟨relations, hRelations, rfl⟩

/- Completion keeps the name of a model. -/
theorem name_of_linkModel
    (hLink : linkModel declared model = .ok complete) :
    complete.name = model.name := by
  rcases linkModel_eq_ok hLink with ⟨relations, _, rfl⟩
  rfl

/- Completion keeps the names of all models. -/
theorem map_name_of_linkModel
    {models linked : List Model}
    (hEach :
      List.Forall₂
        (fun model complete =>
          linkModel declared model = .ok complete)
        models linked) :
    linked.map Model.name = models.map Model.name :=
  hEach.map_eq fun _ _ hLink => name_of_linkModel hLink

/- Linking is what its passes make of the declarations. -/
theorem isLinking_of_link
    {models : List Model}
    {catalog : Catalog}
    (hLink : link models = .ok catalog) :
    ∃ linked, IsLinking models linked catalog := by
  simp only [link, Except.bind_eq_ok_iff,
    List.mapM_eq_ok_iff] at hLink
  rcases hLink with
    ⟨declared, hDeclare, linked, hEach, results, hReverses,
     hCatalog⟩
  cases hCatalog
  rcases declare_eq_ok hDeclare with ⟨rfl, hNames, hKeyed⟩
  have hLinkedNames : (linked.map Model.name).Nodup := by
    rw [map_name_of_linkModel hEach, List.map_map]
    exact hNames
  refine ⟨linked, hNames, hKeyed, hEach, ?_⟩
  exact foldlM_addReverse_eq_ok hLinkedNames hReverses

end Catalog

end Relmap

------------------------------------------------------------
-- Linked Catalogs
------------------------------------------------------------

namespace Relmap

namespace Catalog

/-
  What can be relied on in a catalog that was linked: every
  model is found by its name and has a key, and relations
  lead to models and start at fields.
-/
structure IsLinked (catalog : Catalog) : Prop where
  names : (catalog.models.map Model.name).Nodup
  keyed :
    ∀ model ∈ catalog.models,
      model.primaryKey?.isSome = true
  targets :
    ∀ model ∈ catalog.models,
      ∀ relation ∈ model.relations,
        (catalog.model? relation.target).isSome = true
  backed :
    ∀ model ∈ catalog.models,
      ∀ relation ∈ model.relations, ∀ source,
        relation.sourceField? = some source →
          (model.field? source).isSome = true

variable {declared : Catalog}
variable {model complete : Model}

/- Completion keeps what a relation is and where it leads. -/
theorem completeRelation_eq_ok
    {relation result : Relation}
    (hComplete :
      completeRelation declared model relation =
        .ok result) :
    result.name = relation.name ∧
      result.target = relation.target ∧
        (declared.model? relation.target).isSome = true ∧
          ∀ key, result.kind = .backward key →
            result = relation := by
  unfold completeRelation at hComplete
  split at hComplete
  · cases hComplete
  · rename_i target hTarget
    rw [hTarget]
    split at hComplete
    · cases hComplete
      exact ⟨rfl, rfl, rfl, fun key hKind => by cases hKind⟩
    · cases hComplete
      exact ⟨rfl, rfl, rfl, fun _ _ => rfl⟩
    · dsimp only at hComplete
      split at hComplete
      · cases hComplete
      · cases hComplete
        exact ⟨rfl, rfl, rfl, fun key hKind => by cases hKind⟩

/- A completed model has a key if its declaration has. -/
theorem primaryKey?_isSome_of_linkModel
    (hLink : linkModel declared model = .ok complete)
    (hKey : model.primaryKey?.isSome = true) :
    complete.primaryKey?.isSome = true := by
  rcases linkModel_eq_ok hLink with ⟨relations, _, rfl⟩
  rw [Model.primaryKey?, List.find?_isSome,
    ← List.any_eq_true] at hKey ⊢
  exact any_primaryKey_foldl_backRelation hKey

/- The relations of a completed model lead somewhere. -/
theorem target_of_linkModel
    (hLink : linkModel declared model = .ok complete)
    {relation : Relation}
    (hMember : relation ∈ complete.relations) :
    (declared.model? relation.target).isSome = true := by
  rcases linkModel_eq_ok hLink with ⟨relations, hRelations, rfl⟩
  rcases hRelations.exists_of_mem_right hMember with
    ⟨original, _, hComplete⟩
  rcases completeRelation_eq_ok hComplete with
    ⟨_, hTarget, hSome, _⟩
  rw [hTarget]
  exact hSome

/- The foreign keys of a completed model have their field. -/
theorem backed_of_linkModel
    (hKeyed :
      ∀ model ∈ declared.models,
        model.primaryKey?.isSome = true)
    (hLink : linkModel declared model = .ok complete)
    {relation : Relation}
    (hMember : relation ∈ complete.relations)
    {source : String}
    (hSource : relation.sourceField? = some source) :
    (complete.field? source).isSome = true := by
  have hTarget := target_of_linkModel hLink hMember
  rcases Option.isSome_iff_exists.mp hTarget with
    ⟨target, hModel⟩
  have hKey := hKeyed target (model?_eq_some hModel).1
  rcases linkModel_eq_ok hLink with ⟨relations, _, rfl⟩
  rw [Model.field?_isSome_iff]
  exact sourceField_mem_foldl_backRelation hMember hSource
    ⟨target, hModel, hKey⟩ model.fields

/- A reverse relation starts where its relation leads. -/
theorem mem_reversesOf
    {reverse : String × Relation}
    (hMember : reverse ∈ reversesOf model) :
    ∃ relation ∈ model.relations,
      reverse.1 = relation.target ∧
        reverse.2.target = model.name ∧
          reverse.2.sourceField? = none ∧
            ∀ key, reverse.2.kind = .backward key →
              relation.sourceField? =
                some key.relationField := by
  rcases List.mem_filterMap.mp hMember with
    ⟨relation, hRelation, hReverse⟩
  rcases Option.map_eq_some_iff.mp hReverse with
    ⟨other, hOther, rfl⟩
  refine ⟨relation, hRelation, rfl, ?_⟩
  unfold reverse? at hOther
  split at hOther
  · rename_i key hKind
    rcases Option.map_eq_some_iff.mp hOther with ⟨name, _, rfl⟩
    refine ⟨rfl, rfl, ?_⟩
    intro backward hBackward
    cases hBackward
    simp [Relation.sourceField?, Relation.foreignKey?, hKind]
  · cases hOther
  · rcases Option.map_eq_some_iff.mp hOther with ⟨name, _, rfl⟩
    refine ⟨rfl, rfl, ?_⟩
    intro backward hBackward
    cases hBackward

/- A relation is a completed one or a reverse one. -/
theorem mem_relations_withReverses
    {linked : List Model}
    {relation : Relation}
    (hMember :
      relation ∈
        (complete.withReverses
          (linked.flatMap reversesOf)).relations) :
    relation ∈ complete.relations ∨
      ∃ other ∈ linked,
        (complete.name, relation) ∈ reversesOf other := by
  rw [Model.withReverses, List.mem_append] at hMember
  rcases hMember with hOwn | hReverse
  · exact .inl hOwn
  · right
    rcases List.mem_map.mp hReverse with
      ⟨⟨name, added⟩, hAdded, rfl⟩
    rcases List.mem_filter.mp hAdded with ⟨hAll, hName⟩
    rcases List.mem_flatMap.mp hAll with
      ⟨other, hOther, hReverses⟩
    have hSame : name = complete.name := by simpa using hName
    rw [hSame] at hReverses
    exact ⟨other, hOther, hReverses⟩

section

variable {models linked : List Model}
variable {catalog : Catalog}

/- Names of models are those of the declarations. -/
theorem IsLinking.map_name
    (hLinking : IsLinking models linked catalog) :
    catalog.models.map Model.name =
        models.map Model.name ∧
      linked.map Model.name = models.map Model.name := by
  have hLinked := map_name_of_linkModel hLinking.each
  rw [List.map_map] at hLinked
  refine ⟨?_, hLinked⟩
  rw [hLinking.reversed, map_name_withReverses]
  exact hLinked

/- A name that is declared is in the catalog. -/
theorem IsLinking.model?_isSome
    (hLinking : IsLinking models linked catalog)
    {name : String}
    (hName :
      (model? ⟨models.map withTable⟩ name).isSome = true) :
    (catalog.model? name).isSome = true := by
  rw [model?_isSome_iff] at hName ⊢
  rw [hLinking.map_name.1]
  rw [List.map_map] at hName
  exact hName

/- A completed model is found under its name. -/
theorem IsLinking.model?_of_mem
    (hLinking : IsLinking models linked catalog)
    (hMember : complete ∈ linked) :
    catalog.model? complete.name =
      some (complete.withReverses
        (linked.flatMap reversesOf)) := by
  have hNames : (catalog.models.map Model.name).Nodup := by
    rw [hLinking.map_name.1]
    exact hLinking.names
  have hModel :
      complete.withReverses (linked.flatMap reversesOf) ∈
        catalog.models := by
    rw [hLinking.reversed]
    exact List.mem_map_of_mem hMember
  exact Catalog.model?_of_mem hNames hModel

/- Linking makes a catalog that can be relied on. -/
theorem IsLinking.isLinked
    (hLinking : IsLinking models linked catalog) :
    catalog.IsLinked := by
  constructor
  · rw [hLinking.map_name.1]
    exact hLinking.names
  · intro model hModel
    rw [hLinking.reversed] at hModel
    rcases List.mem_map.mp hModel with
      ⟨complete, hComplete, rfl⟩
    rcases hLinking.each.exists_of_mem_right hComplete with
      ⟨original, hOriginal, hLink⟩
    rw [Model.primaryKey?_withReverses]
    exact primaryKey?_isSome_of_linkModel hLink
      (hLinking.keyed original hOriginal)
  · intro model hModel relation hRelation
    rw [hLinking.reversed] at hModel
    rcases List.mem_map.mp hModel with
      ⟨complete, hComplete, rfl⟩
    rcases hLinking.each.exists_of_mem_right hComplete with
      ⟨original, _, hLink⟩
    rcases mem_relations_withReverses hRelation with
      hOwn | ⟨other, hOther, hReverse⟩
    · exact hLinking.model?_isSome
        (target_of_linkModel hLink hOwn)
    · rcases mem_reversesOf hReverse with ⟨_, _, _, hTarget, _⟩
      rw [hTarget, hLinking.model?_of_mem hOther]
      rfl
  · intro model hModel relation hRelation source hSource
    rw [hLinking.reversed] at hModel
    rcases List.mem_map.mp hModel with
      ⟨complete, hComplete, rfl⟩
    rcases hLinking.each.exists_of_mem_right hComplete with
      ⟨original, _, hLink⟩
    rcases mem_relations_withReverses hRelation with
      hOwn | ⟨other, hOther, hReverse⟩
    · rw [Model.field?_withReverses]
      exact backed_of_linkModel hLinking.keyed hLink hOwn
        hSource
    · rcases mem_reversesOf hReverse with ⟨_, _, _, _, hNone, _⟩
      rw [hNone] at hSource
      cases hSource

/-
  A backward relation was declared as such by the model of
  the name, or was added for a foreign key and starts at the
  field of that.
-/
theorem IsLinking.backward
    (hLinking : IsLinking models linked catalog)
    {model : Model}
    (hModel : model ∈ catalog.models)
    {relation : Relation}
    (hRelation : relation ∈ model.relations)
    {key : BackwardKey}
    (hKind : relation.kind = .backward key) :
    (∃ original ∈ models,
        original.name = model.name ∧
          relation ∈ original.relations) ∨
      ∃ target,
        catalog.model? relation.target = some target ∧
          (target.field? key.relationField).isSome =
            true := by
  rw [hLinking.reversed] at hModel
  rcases List.mem_map.mp hModel with ⟨complete, hComplete, rfl⟩
  rcases mem_relations_withReverses hRelation with
    hOwn | ⟨other, hOther, hReverse⟩
  · left
    rcases hLinking.each.exists_of_mem_right hComplete with
      ⟨original, hOriginal, hLink⟩
    rcases linkModel_eq_ok hLink with
      ⟨relations, hRelations, rfl⟩
    rcases hRelations.exists_of_mem_right hOwn with
      ⟨before, hBefore, hDone⟩
    rcases List.mem_map.mp hOriginal with
      ⟨declaration, hDeclaration, rfl⟩
    have hSame :=
      (completeRelation_eq_ok hDone).2.2.2 key hKind
    rw [hSame]
    exact ⟨declaration, hDeclaration, rfl, hBefore⟩
  · right
    rcases mem_reversesOf hReverse with
      ⟨source, hSource, _, hTarget, _, hField⟩
    rcases hLinking.each.exists_of_mem_right hOther with
      ⟨original, _, hLink⟩
    have hFound := hLinking.model?_of_mem hOther
    rw [← hTarget] at hFound
    refine ⟨_, hFound, ?_⟩
    rw [Model.field?_withReverses]
    exact backed_of_linkModel hLinking.keyed hLink hSource
      (hField key hKind)

end

/- Every linked catalog can be relied on. -/
theorem isLinked_of_link
    {models : List Model}
    {catalog : Catalog}
    (hLink : link models = .ok catalog) :
    catalog.IsLinked := by
  rcases isLinking_of_link hLink with ⟨linked, hLinking⟩
  exact hLinking.isLinked

end Catalog

end Relmap
