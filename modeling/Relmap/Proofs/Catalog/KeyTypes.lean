import Relmap.Proofs.Catalog.Extension

/-
  The types of the columns that back foreign keys.

  A column takes the type that the key of the target was
  declared with. The key may back a foreign key itself, and
  then takes another type in turn, which columns that
  reference it do not follow. Both types are the same as
  long as such keys are declared with the type of what they
  reference.

  Main declarations:
    * `Catalog.keyType?`
    * `Catalog.exists_backing_of_source`
    * `Catalog.mem_foldl_backRelation`
    * `Catalog.column_type_of_link`
    * `Catalog.exists_column_type_ne`
-/

------------------------------------------------------------
-- Columns By Name
------------------------------------------------------------

namespace Relmap

namespace Catalog

/- The first field with a name. -/
def named?
    (fields : List Field)
    (name : String) : Option Field :=
  fields.find? fun field => field.name = name

variable {column field : Field}
variable {fields : List Field}
variable {name : String}

theorem named?_cons_of_ne
    (hName : field.name ≠ name)
    (rest : List Field) :
    named? (field :: rest) name = named? rest name :=
  List.find?_cons_of_neg (by simpa using hName)

theorem named?_cons_of_eq
    (hName : field.name = name)
    (rest : List Field) :
    named? (field :: rest) name = some field :=
  List.find?_cons_of_pos (by simpa using hName)

/- The column is found under its name, with its type. -/
theorem named?_addBacking_self
    (column : Field)
    (fields : List Field) :
    ∃ field,
      named? (addBacking column fields) column.name =
          some field ∧
        field.type = column.type ∧
          field.reference = column.reference := by
  induction fields with
  | nil => exact ⟨column, named?_cons_of_eq rfl [], rfl, rfl⟩
  | cons field rest ih =>
      unfold addBacking
      by_cases hSame : field.name = column.name
      · rw [if_pos hSame]
        refine ⟨_, named?_cons_of_eq ?_ rest, rfl, rfl⟩
        exact hSame
      · rw [if_neg hSame, named?_cons_of_ne hSame]
        exact ih

/- What is found under other names is as before. -/
theorem named?_addBacking_of_ne
    (hName : name ≠ column.name)
    (fields : List Field) :
    named? (addBacking column fields) name =
      named? fields name := by
  induction fields with
  | nil => exact named?_cons_of_ne hName.symm []
  | cons field rest ih =>
      unfold addBacking
      by_cases hSame : field.name = column.name
      · have hOther : field.name ≠ name := fun hField =>
          hName (hField.symm.trans hSame)
        rw [if_pos hSame, named?_cons_of_ne hOther]
        apply named?_cons_of_ne
        exact hOther
      · rw [if_neg hSame]
        by_cases hField : field.name = name
        · rw [named?_cons_of_eq hField,
            named?_cons_of_eq hField]
        · rw [named?_cons_of_ne hField,
            named?_cons_of_ne hField, ih]

/- No field changes but the one found under the name. -/
theorem mem_addBacking
    (hField : field ∈ addBacking column fields) :
    field ∈ fields ∨
      named? (addBacking column fields) column.name =
        some field := by
  induction fields with
  | nil =>
      rw [addBacking, List.mem_singleton] at hField
      rw [hField]
      exact .inr (named?_cons_of_eq rfl [])
  | cons first rest ih =>
      unfold addBacking at hField ⊢
      by_cases hSame : first.name = column.name
      · rw [if_pos hSame, List.mem_cons] at hField
        rw [if_pos hSame]
        rcases hField with rfl | hRest
        · right
          apply named?_cons_of_eq
          exact hSame
        · exact .inl (List.mem_cons_of_mem first hRest)
      · rw [if_neg hSame, List.mem_cons] at hField
        rw [if_neg hSame, named?_cons_of_ne hSame]
        rcases hField with rfl | hRest
        · exact .inl List.mem_cons_self
        · exact (ih hRest).imp_left
            (List.mem_cons_of_mem first)

end Catalog

end Relmap

------------------------------------------------------------
-- Columns Of Relations
------------------------------------------------------------

namespace Relmap

namespace Catalog

/- The type of the key of a model. -/
def keyType?
    (catalog : Catalog)
    (name : String) : Option FieldType :=
  ((catalog.model? name).bind Model.primaryKey?).map
    Field.type

variable {declared : Catalog}
variable {fields : List Field}
variable {relation : Relation}
variable {relations : List Relation}
variable {source : String}
variable {type : FieldType}

/- A foreign key gets a column of the type it references. -/
theorem backRelation_of_source
    (hSource : relation.sourceField? = some source)
    (hType : declared.keyType? relation.target = some type)
    (fields : List Field) :
    ∃ column : Field,
      column.name = source ∧ column.type = type ∧
        column.reference = some relation.name ∧
          backRelation declared fields relation =
            addBacking column fields := by
  rcases Option.map_eq_some_iff.mp hType with
    ⟨referenced, hReferenced, rfl⟩
  unfold Relation.sourceField? Relation.foreignKey? at hSource
  unfold backRelation
  cases hKind : relation.kind with
  | foreignKey key =>
      rw [hKind] at hSource
      cases hSource
      simp only [hReferenced]
      exact ⟨backingField relation.name key referenced, rfl,
        rfl, rfl, rfl⟩
  | backward key =>
      rw [hKind] at hSource
      cases hSource
  | manyToMany link =>
      rw [hKind] at hSource
      cases hSource

/- No other relation gets one. -/
theorem backRelation_of_none
    (hSource : relation.sourceField? = none)
    (fields : List Field) :
    backRelation declared fields relation = fields := by
  unfold Relation.sourceField? Relation.foreignKey? at hSource
  unfold backRelation
  cases hKind : relation.kind with
  | foreignKey key =>
      rw [hKind] at hSource
      cases hSource
  | backward key => rfl
  | manyToMany link => rfl

/- The keys that relations of a list reference are there. -/
def HasKeys
    (declared : Catalog)
    (relations : List Relation) : Prop :=
  ∀ relation ∈ relations,
    (declared.keyType? relation.target).isSome = true

/- Fields that no relation is backed by are as before. -/
theorem named?_foldl_backRelation
    (hKeys : declared.HasKeys relations)
    (hSource :
      source ∉ relations.filterMap Relation.sourceField?)
    (fields : List Field) :
    named? (relations.foldl (backRelation declared) fields)
        source =
      named? fields source := by
  induction relations generalizing fields with
  | nil => rfl
  | cons relation rest ih =>
      rw [HasKeys, List.forall_mem_cons] at hKeys
      rcases Option.isSome_iff_exists.mp hKeys.1 with
        ⟨type, hType⟩
      rw [List.foldl_cons]
      cases hName : relation.sourceField? with
      | none =>
          rw [List.filterMap_cons_none hName] at hSource
          rw [ih hKeys.2 hSource, backRelation_of_none hName]
      | some other =>
          rw [List.filterMap_cons_some hName, List.mem_cons,
            not_or] at hSource
          rcases backRelation_of_source hName hType fields with
            ⟨column, rfl, _, _, hColumn⟩
          rw [ih hKeys.2 hSource.2, hColumn,
            named?_addBacking_of_ne hSource.1]

/- What follows has other sources than the first relation. -/
theorem distinct_of_cons
    (hDistinct :
      ((relation :: relations).filterMap
        Relation.sourceField?).Nodup) :
    (relations.filterMap Relation.sourceField?).Nodup ∧
      ∀ source, relation.sourceField? = some source →
        source ∉
          relations.filterMap Relation.sourceField? := by
  cases hName : relation.sourceField? with
  | none =>
      rw [List.filterMap_cons_none hName] at hDistinct
      exact ⟨hDistinct, fun _ hSource => by cases hSource⟩
  | some source =>
      rw [List.filterMap_cons_some hName,
        List.nodup_cons] at hDistinct
      refine ⟨hDistinct.2, fun other hOther => ?_⟩
      cases hOther
      exact hDistinct.1

/- The field of a foreign key is found, with what it backs. -/
theorem exists_backing_of_source
    (hKeys : declared.HasKeys relations)
    (hDistinct :
      (relations.filterMap Relation.sourceField?).Nodup)
    (hRelation : relation ∈ relations)
    (hSource : relation.sourceField? = some source)
    (hType : declared.keyType? relation.target = some type)
    (fields : List Field) :
    ∃ field,
      named? (relations.foldl (backRelation declared) fields)
          source = some field ∧
        field.type = type ∧
          field.reference = some relation.name := by
  induction relations generalizing fields with
  | nil => cases hRelation
  | cons first rest ih =>
      rw [HasKeys, List.forall_mem_cons] at hKeys
      rcases distinct_of_cons hDistinct with ⟨hRest, hNew⟩
      rw [List.foldl_cons]
      rcases List.mem_cons.mp hRelation with rfl | hLater
      · rcases backRelation_of_source hSource hType fields with
          ⟨column, rfl, rfl, hReference, hColumn⟩
        rw [named?_foldl_backRelation hKeys.2
          (hNew _ hSource), hColumn, ← hReference]
        exact named?_addBacking_self column fields
      · exact ih hKeys.2 hRest hLater _

/- A field was declared as it is, or backs a relation. -/
theorem mem_foldl_backRelation
    (hKeys : declared.HasKeys relations)
    (hDistinct :
      (relations.filterMap Relation.sourceField?).Nodup)
    {field : Field}
    (hField :
      field ∈ relations.foldl (backRelation declared) fields) :
    field ∈ fields ∨
      ∃ relation ∈ relations,
        relation.sourceField?.bind
            (named?
              (relations.foldl (backRelation declared)
                fields)) =
          some field := by
  induction relations generalizing fields with
  | nil => exact .inl hField
  | cons relation rest ih =>
      rw [HasKeys, List.forall_mem_cons] at hKeys
      rcases Option.isSome_iff_exists.mp hKeys.1 with
        ⟨type, hType⟩
      rcases distinct_of_cons hDistinct with ⟨hRest, hNew⟩
      rw [List.foldl_cons] at hField ⊢
      rcases ih hKeys.2 hRest hField with
        hOld | ⟨other, hOther, hFound⟩
      · cases hName : relation.sourceField? with
        | none =>
            rw [backRelation_of_none hName] at hOld
            exact .inl hOld
        | some source =>
            rcases backRelation_of_source hName hType
                fields with
              ⟨column, rfl, _, _, hColumn⟩
            rw [hColumn] at hOld ⊢
            refine (mem_addBacking hOld).imp_right ?_
            intro hFound
            refine ⟨relation, List.mem_cons_self, ?_⟩
            rw [hName, Option.bind_some,
              named?_foldl_backRelation hKeys.2
                (hNew _ hName), hFound]
      · exact .inr
          ⟨other, List.mem_cons_of_mem _ hOther, hFound⟩

end Catalog

end Relmap

------------------------------------------------------------
-- Keys Of Completed Models
------------------------------------------------------------

namespace Relmap

namespace Catalog

variable {declared : Catalog}
variable {model complete : Model}

theorem IsCompletion.hasKeys
    (hComplete : IsCompletion declared model complete)
    (hKeyed :
      ∀ model ∈ declared.models,
        model.primaryKey?.isSome = true) :
    declared.HasKeys complete.relations := by
  intro relation hRelation
  rw [keyType?, Option.isSome_map]
  exact hComplete.keyed hKeyed relation hRelation

/-
  The column of a foreign key has the type of its target,
  and knows the relation that it backs.
-/
theorem IsCompletion.exists_column
    (hComplete : IsCompletion declared model complete)
    (hKeyed :
      ∀ model ∈ declared.models,
        model.primaryKey?.isSome = true)
    (hSources :
      (model.relations.filterMap
        Relation.sourceName?).Nodup)
    {relation : Relation}
    (hRelation : relation ∈ complete.relations)
    {source : String}
    (hSource : relation.sourceField? = some source) :
    ∃ column,
      complete.field? source = some column ∧
        declared.keyType? relation.target =
            some column.type ∧
          column.reference = some relation.name := by
  have hKeys := hComplete.hasKeys hKeyed
  rw [← Relation.sources_of_isCompletion
    hComplete.relations] at hSources
  rcases Option.isSome_iff_exists.mp
      (hKeys relation hRelation) with
    ⟨type, hType⟩
  rcases exists_backing_of_source hKeys hSources hRelation
      hSource hType model.fields with
    ⟨column, hColumn, rfl, hReference⟩
  rw [← hComplete.fields] at hColumn
  exact ⟨column, hColumn, hType, hReference⟩

/- Of two keys of a model with one, each is the other. -/
theorem eq_of_countP_primaryKey
    {fields : List Field}
    (hOne : fields.countP Field.primaryKey = 1)
    {first second : Field}
    (hFirst : first ∈ fields)
    (hFirstKey : first.primaryKey = true)
    (hSecond : second ∈ fields)
    (hSecondKey : second.primaryKey = true) :
    first = second := by
  rw [List.countP_eq_length_filter,
    List.length_eq_one_iff] at hOne
  rcases hOne with ⟨key, hKey⟩
  have hSame (field : Field)
      (hField : field ∈ fields)
      (hFieldKey : field.primaryKey = true) :
      field = key := by
    rw [← List.mem_singleton, ← hKey]
    exact List.mem_filter.mpr ⟨hField, hFieldKey⟩
  rw [hSame first hFirst hFirstKey,
    hSame second hSecond hSecondKey]

/- A key is the declared one, unless it backs a relation. -/
theorem IsCompletion.primaryKey?_cases
    (hComplete : IsCompletion declared model complete)
    (hKeyed :
      ∀ model ∈ declared.models,
        model.primaryKey?.isSome = true)
    (hSources :
      (model.relations.filterMap
        Relation.sourceName?).Nodup)
    (hOne : model.fields.countP Field.primaryKey = 1)
    {key : Field}
    (hKey : complete.primaryKey? = some key) :
    model.primaryKey? = some key ∨
      ∃ relation ∈ complete.relations,
        relation.sourceField?.bind complete.field? =
          some key := by
  have hMember : key ∈ complete.fields :=
    List.mem_of_find?_eq_some hKey
  have hIsKey : key.primaryKey = true :=
    List.find?_some hKey
  rw [← Relation.sources_of_isCompletion
    hComplete.relations] at hSources
  rw [hComplete.fields] at hMember
  rcases mem_foldl_backRelation (hComplete.hasKeys hKeyed)
      hSources hMember with
    hDeclared | ⟨relation, hRelation, hBacked⟩
  · left
    rcases Option.isSome_iff_exists.mp
        (primaryKey?_isSome_of_countP hOne) with
      ⟨first, hFirst⟩
    rw [hFirst, eq_of_countP_primaryKey hOne
      (List.mem_of_find?_eq_some hFirst)
      (List.find?_some hFirst) hDeclared hIsKey]
  · right
    rw [← hComplete.fields] at hBacked
    exact ⟨relation, hRelation, hBacked⟩

end Catalog

end Relmap

------------------------------------------------------------
-- Keys Of Linked Models
------------------------------------------------------------

namespace Relmap

namespace Catalog

variable {models linked : List Model}
variable {catalog : Catalog}
variable {model complete : Model}

/- Tables have no part in the types of keys. -/
theorem keyType?_withTable
    (models : List Model)
    (name : String) :
    keyType? ⟨models.map withTable⟩ name =
      keyType? ⟨models⟩ name := by
  rw [keyType?, model?_withTable, keyType?]
  cases model? ⟨models⟩ name with
  | none => rfl
  | some model => rfl

/- With distinct names a model is found with its key. -/
theorem keyType?_of_mem
    (hNames : (models.map Model.name).Nodup)
    (hModel : model ∈ models) :
    keyType? ⟨models⟩ model.name =
      model.primaryKey?.map Field.type := by
  rw [keyType?, Catalog.model?_of_mem hNames hModel]
  rfl

/- Foreign keys of linked models are not reverses. -/
theorem mem_relations_of_source
    {relation : Relation}
    (hMember :
      relation ∈
        (complete.withReverses
          (linked.flatMap reversesOf)).relations)
    {source : String}
    (hSource : relation.sourceField? = some source) :
    relation ∈ complete.relations := by
  rcases mem_relations_withReverses hMember with
    hOwn | ⟨other, _, hReverse⟩
  · exact hOwn
  · rcases mem_reversesOf hReverse with ⟨_, _, _, _, hNone, _⟩
    rw [hNone] at hSource
    cases hSource

/-
  The column of a foreign key has the type that the key of
  the target was declared with.
-/
theorem IsLinking.exists_column
    (hLinking : IsLinking models linked catalog)
    (hSources :
      ∀ model ∈ models,
        (model.relations.filterMap
          Relation.sourceName?).Nodup)
    (hModel : model ∈ catalog.models)
    {relation : Relation}
    (hRelation : relation ∈ model.relations)
    {source : String}
    (hSource : relation.sourceField? = some source) :
    ∃ column,
      model.field? source = some column ∧
        keyType? ⟨models⟩ relation.target =
          some column.type := by
  rcases hLinking.exists_isCompletion hModel with
    ⟨original, hOriginal, complete, _, hComplete, rfl⟩
  rw [← keyType?_withTable]
  rcases hComplete.exists_column hLinking.keyed
      (hSources original hOriginal)
      (mem_relations_of_source hRelation hSource) hSource with
    ⟨column, hColumn, hType, _⟩
  exact ⟨column, hColumn, hType⟩

/- What a field backs determines the type that it has. -/
theorem IsLinking.keyType?_of_backed
    (hLinking : IsLinking models linked catalog)
    (hSources :
      ∀ model ∈ models,
        (model.relations.filterMap
          Relation.sourceName?).Nodup)
    (hModel : model ∈ catalog.models)
    {relation : Relation}
    (hRelation : relation ∈ model.relations)
    {field : Field}
    (hBacked :
      relation.sourceField?.bind model.field? =
        some field) :
    keyType? ⟨models⟩ relation.target =
      some field.type := by
  rcases Option.bind_eq_some_iff.mp hBacked with
    ⟨source, hSource, hField⟩
  rcases hLinking.exists_column hSources hModel hRelation
      hSource with
    ⟨column, hColumn, hType⟩
  rw [hField] at hColumn
  cases hColumn
  exact hType

/- A key has its declared type, unless it backs a relation. -/
theorem IsLinking.keyType?_cases
    (hLinking : IsLinking models linked catalog)
    (hLinkable : IsLinkable models)
    (hSources :
      ∀ model ∈ models,
        (model.relations.filterMap
          Relation.sourceName?).Nodup)
    (hModel : model ∈ catalog.models)
    {key : Field}
    (hKey : model.primaryKey? = some key) :
    keyType? ⟨models⟩ model.name = some key.type ∨
      ∃ relation ∈ model.relations,
        relation.sourceField?.bind model.field? =
          some key := by
  rcases hLinking.exists_isCompletion hModel with
    ⟨original, hOriginal, complete, _, hComplete, rfl⟩
  rcases hComplete.primaryKey?_cases hLinking.keyed
      (hSources original hOriginal)
      (hLinkable.keys original hOriginal) hKey with
    hDeclared | ⟨relation, hRelation, hBacked⟩
  · left
    have hName :
        (complete.withReverses
          (linked.flatMap reversesOf)).name =
            original.name := by
      rw [Model.withReverses, hComplete.same]
      rfl
    rw [hName, keyType?_of_mem hLinkable.names hOriginal]
    exact congrArg (Option.map Field.type) hDeclared
  · exact .inr ⟨relation, List.mem_append_left _ hRelation,
      hBacked⟩

/-
  The column of a foreign key has the declared type of the
  key that it references. That is the type of the key in the
  catalog exactly if whatever the key backs leads to keys
  that were declared with the same type.
-/
theorem column_type_of_link
    (hSources :
      ∀ model ∈ models,
        (model.relations.filterMap
          Relation.sourceName?).Nodup)
    (hLink : link models = .ok catalog)
    (hModel : model ∈ catalog.models)
    {relation : Relation}
    (hRelation : relation ∈ model.relations)
    {source : String}
    (hSource : relation.sourceField? = some source) :
    ∃ column target key,
      model.field? source = some column ∧
        catalog.model? relation.target = some target ∧
        target.primaryKey? = some key ∧
        keyType? ⟨models⟩ relation.target =
          some column.type ∧
        (column.type = key.type ↔
          ∀ other ∈ target.relations,
            other.sourceField?.bind target.field? =
                some key →
              keyType? ⟨models⟩ other.target =
                keyType? ⟨models⟩ target.name) := by
  have hLinkable := isOk_link_iff.mp ⟨catalog, hLink⟩
  have hLinked := isLinked_of_link hLink
  rcases isLinking_of_link hLink with ⟨linked, hLinking⟩
  rcases hLinking.exists_column hSources hModel hRelation
      hSource with
    ⟨column, hColumn, hType⟩
  rcases Option.isSome_iff_exists.mp
      (hLinked.targets model hModel relation hRelation) with
    ⟨target, hTarget⟩
  rcases model?_eq_some hTarget with ⟨hMember, hName⟩
  rcases Option.isSome_iff_exists.mp
      (hLinked.keyed target hMember) with
    ⟨key, hKey⟩
  refine ⟨column, target, key, hColumn, hTarget, hKey, hType,
    ?_⟩
  rw [hName, hType]
  constructor
  · intro hSame other hOther hBacked
    rw [hSame]
    exact hLinking.keyType?_of_backed hSources hMember hOther
      hBacked
  · intro hAll
    rcases hLinking.keyType?_cases hLinkable hSources hMember
        hKey with
      hDeclared | ⟨other, hOther, hBacked⟩
    · rw [hName, hType] at hDeclared
      exact Option.some.inj hDeclared
    · have hKeyType := hLinking.keyType?_of_backed hSources
        hMember hOther hBacked
      rw [hAll other hOther hBacked] at hKeyType
      exact Option.some.inj hKeyType

/- Posts of profiles, whose key is that of an account. -/
private def chain : List Model :=
  [{ name := "Account"
     fields := [
       .keyOfType "id" (.named FieldType.bigIntName)] },
    { name := "Profile"
      fields := [
        .keyOfType "account_id" (.named FieldType.intName)]
      relations := [.oneToOne "account" "Account"] },
    { name := "Post"
      fields := [.keyOfType "id" (.named FieldType.intName)]
      relations := [.toOne "profile" "Profile"] }]

/- Posts have the type that profiles are declared with. -/
theorem column_type_of_link_chain :
    ∃ catalog,
      link chain = .ok catalog ∧
        ∃ model ∈ catalog.models, ∃ column,
          model.field? "profile_id" = some column ∧
            column.type = .named FieldType.intName := by
  rcases Except.exists_of_any
      (show (link chain).toOption.any (fun catalog =>
          catalog.models.any fun model =>
            model.relations.any fun relation =>
              relation.target = "Profile" ∧
                relation.sourceField? =
                  some "profile_id") = true by
        decide +kernel) with
    ⟨catalog, hLink, hAny⟩
  simp only [List.any_eq_true, decide_eq_true_eq] at hAny
  rcases hAny with
    ⟨model, hModel, relation, hRelation, hTarget, hSource⟩
  rcases column_type_of_link (by decide +kernel) hLink hModel
      hRelation hSource with
    ⟨column, _, _, hColumn, _, _, hType, _⟩
  rw [hTarget] at hType
  exact ⟨catalog, hLink, model, hModel, column, hColumn,
    (Option.some.inj hType).symm⟩

/-
  The type of a key in the catalog is another one if the key
  backs a foreign key to a key of another type.
-/
theorem exists_column_type_ne :
    (∀ model ∈ chain,
        (model.relations.filterMap
          Relation.sourceName?).Nodup) ∧
      ∃ catalog,
        link chain = .ok catalog ∧
          ∃ model ∈ catalog.models,
            ∃ relation ∈ model.relations,
              ∃ column target key,
                relation.sourceField?.bind model.field? =
                    some column ∧
                  catalog.model? relation.target =
                    some target ∧
                  target.primaryKey? = some key ∧
                  column.type ≠ key.type := by
  refine ⟨by decide +kernel, ?_⟩
  rcases Except.exists_of_any
      (show (link chain).toOption.any (fun catalog =>
          catalog.models.any fun model =>
            model.relations.any fun relation =>
              (relation.sourceField?.bind model.field?).any
                fun column =>
                  (catalog.model? relation.target).any
                    fun target =>
                      target.primaryKey?.any fun key =>
                        column.type.name ≠
                          key.type.name) = true by
        decide +kernel) with
    ⟨catalog, hLink, hAny⟩
  simp only [List.any_eq_true, Option.any_eq_true,
    decide_eq_true_eq] at hAny
  rcases hAny with
    ⟨model, hModel, relation, hRelation, column, hColumn,
     target, hTarget, key, hKey, hNames⟩
  exact ⟨catalog, hLink, model, hModel, relation, hRelation,
    column, target, key, hColumn, hTarget, hKey,
    fun hSame => hNames (congrArg FieldType.name hSame)⟩

end Catalog

end Relmap
