import Mathlib.Data.List.Forall2
import Relmap.Proofs.Catalog.Linking

/-
  Completion of one model, member by member.

  A relation keeps everything that its declaration states
  and gets names where that leaves them open. A declared
  field keeps all but its type and what says that it backs a
  foreign key, and foreign keys without a declared field get
  columns behind the declared ones.

  Main declarations:
    * `Model.tableName`
    * `Relation.sourceName?`
    * `ManyToMany.IsComplete`
    * `Relation.IsCompletion`
    * `Catalog.exists_completeRelation_iff`
    * `Field.Keeps`
    * `Catalog.Backs`
    * `Catalog.backs_foldl_backRelation`
-/

------------------------------------------------------------
-- Names Of Declarations
------------------------------------------------------------

namespace Relmap

/- The table of a declared model, named after it by default. -/
def Model.tableName (model : Model) : String :=
  if model.table = "" then Text.lowercase model.name
  else model.table

/- The field of a declared foreign key. -/
def Relation.sourceName?
    (relation : Relation) : Option String :=
  match relation.kind with
  | .foreignKey key =>
      some
        (if key.sourceField = "" then relation.name ++ "_id"
          else key.sourceField)
  | _ => none

namespace Catalog

@[simp] theorem table_withTable (model : Model) :
    (withTable model).table = model.tableName :=
  rfl

@[simp] theorem fields_withTable (model : Model) :
    (withTable model).fields = model.fields :=
  rfl

@[simp] theorem relations_withTable (model : Model) :
    (withTable model).relations = model.relations :=
  rfl

/- A default that is not empty leaves no name empty. -/
theorem orElse_ne_empty
    {other : String}
    (hOther : other ≠ "")
    (text : String) :
    orElse text other ≠ "" := by
  unfold orElse
  split
  · exact hOther
  · assumption

/- A text that ends in another one is not empty. -/
theorem append_ne_empty
    {ending : String}
    (hEnding : ending ≠ "")
    (text : String) :
    text ++ ending ≠ "" := fun hEmpty =>
  hEnding (String.append_eq_empty_iff.mp hEmpty).2

end Catalog

end Relmap

------------------------------------------------------------
-- Completed Relations
------------------------------------------------------------

namespace Relmap

/- A kind with names in place of those that were open. -/
def RelationKind.Completes :
    RelationKind → RelationKind → Prop
  | .foreignKey key, .foreignKey done =>
      done = { key with sourceField := done.sourceField } ∧
        (key.sourceField ≠ "" →
          done.sourceField = key.sourceField)
  | .backward key, .backward done => done = key
  | .manyToMany link, .manyToMany done =>
      done =
          { link with
            through := done.through
            forwardKey := done.forwardKey
            backwardKey := done.backwardKey } ∧
        (link.through ≠ "" → done.through = link.through) ∧
        (link.forwardKey ≠ "" →
          done.forwardKey = link.forwardKey) ∧
        (link.backwardKey ≠ "" →
          done.backwardKey = link.backwardKey)
  | _, _ => False

/- A link table has a name and two columns. -/
structure ManyToMany.IsComplete (link : ManyToMany) : Prop where
  through : link.through ≠ ""
  forwardKey : link.forwardKey ≠ ""
  backwardKey : link.backwardKey ≠ ""
  distinct : link.forwardKey ≠ link.backwardKey

/-
  A relation is completed if it is what was declared, with
  every name filled in and with two different columns in its
  link table.
-/
structure Relation.IsCompletion
    (original result : Relation) : Prop where
  name : result.name = original.name
  target : result.target = original.target
  kind : original.kind.Completes result.kind
  relatedName : result.relatedName? = original.relatedName?
  source : result.sourceField? = original.sourceName?
  links :
    ∀ link, result.kind = .manyToMany link →
      link.IsComplete

namespace Catalog

variable {declared : Catalog}
variable {model : Model}
variable {relation result : Relation}

/- The default of the far column is never the near one. -/
theorem farKey_ne
    (targetTable backwardKey : String) :
    (if targetTable ++ "_id" = backwardKey then
        targetTable ++ "_rel_id"
      else targetTable ++ "_id") ≠ backwardKey := by
  split
  · rename_i hSame
    rw [← hSame, ne_eq, String.append_right_inj]
    decide
  · assumption

/- Both columns coincide only if that was declared. -/
theorem sameKeys_completeLink_iff
    {ownTable targetTable : String}
    {link : ManyToMany} :
    (completeLink ownTable targetTable link).forwardKey =
        (completeLink ownTable targetTable link).backwardKey ↔
      link.forwardKey ≠ "" ∧
        link.forwardKey =
          if link.backwardKey = "" then ownTable ++ "_id"
          else link.backwardKey := by
  by_cases hForward : link.forwardKey = ""
  · have hFar := farKey_ne targetTable
      (orElse link.backwardKey (ownTable ++ "_id"))
    simp only [completeLink, hForward, orElse, if_true]
      at hFar ⊢
    simp [hFar]
  · simp [completeLink, orElse, hForward]

/- A name that was declared is kept. -/
theorem orElse_of_ne_empty
    {text : String}
    (hText : text ≠ "")
    (other : String) :
    orElse text other = text :=
  if_neg hText

/- A completed link has its names, if its columns differ. -/
theorem isComplete_completeLink
    {ownTable targetTable : String}
    {link : ManyToMany}
    (hKeys :
      (completeLink ownTable targetTable link).forwardKey ≠
        (completeLink ownTable targetTable
          link).backwardKey) :
    (completeLink ownTable targetTable link).IsComplete := by
  have hId (table : String) : table ++ "_id" ≠ "" :=
    append_ne_empty (by decide) table
  refine ⟨?_, ?_, orElse_ne_empty (hId _) _, hKeys⟩
  · apply orElse_ne_empty
    intro hEmpty
    rw [String.append_eq_empty_iff] at hEmpty
    exact append_ne_empty (by decide) _ hEmpty.1
  · apply orElse_ne_empty
    split
    · exact append_ne_empty (by decide) _
    · exact hId _

theorem isCompletion_completeKey
    {key : ForeignKey}
    (hKind : relation.kind = .foreignKey key) :
    relation.IsCompletion
      { relation with
        kind :=
          .foreignKey (completeKey relation.name key) } where
  name := rfl
  target := rfl
  kind := by
    rw [hKind]
    exact ⟨rfl, fun hSource => orElse_of_ne_empty hSource _⟩
  relatedName := by
    simp [Relation.relatedName?, hKind, completeKey]
  source := by
    simp [Relation.sourceField?, Relation.foreignKey?,
      Relation.sourceName?, hKind, completeKey, orElse]
  links := fun _ hLink => by cases hLink

theorem isCompletion_backward
    {key : BackwardKey}
    (hKind : relation.kind = .backward key) :
    relation.IsCompletion relation where
  name := rfl
  target := rfl
  kind := by
    rw [hKind]
    exact rfl
  relatedName := rfl
  source := by
    simp [Relation.sourceField?, Relation.foreignKey?,
      Relation.sourceName?, hKind]
  links := fun link hLink => by
    rw [hKind] at hLink
    cases hLink

theorem isCompletion_completeLink
    {ownTable targetTable : String}
    {link : ManyToMany}
    (hKind : relation.kind = .manyToMany link)
    (hKeys :
      (completeLink ownTable targetTable link).forwardKey ≠
        (completeLink ownTable targetTable
          link).backwardKey) :
    relation.IsCompletion
      { relation with
        kind :=
          .manyToMany
            (completeLink ownTable targetTable link) } where
  name := rfl
  target := rfl
  kind := by
    rw [hKind]
    exact ⟨rfl,
      fun hName => orElse_of_ne_empty hName _,
      fun hName => orElse_of_ne_empty hName _,
      fun hName => orElse_of_ne_empty hName _⟩
  relatedName := by
    simp [Relation.relatedName?, hKind, completeLink]
  source := by
    simp [Relation.sourceField?, Relation.foreignKey?,
      Relation.sourceName?, hKind]
  links := fun other hOther => by
    cases hOther
    exact isComplete_completeLink hKeys

/- Completion keeps what was declared. -/
theorem isCompletion_of_completeRelation
    (hComplete :
      completeRelation declared model relation =
        .ok result) :
    relation.IsCompletion result := by
  unfold completeRelation at hComplete
  split at hComplete
  · cases hComplete
  · split at hComplete
    · rename_i key hKind
      cases hComplete
      exact isCompletion_completeKey hKind
    · rename_i key hKind
      cases hComplete
      exact isCompletion_backward hKind
    · rename_i link hKind
      dsimp only at hComplete
      split at hComplete
      · cases hComplete
      · rename_i hKeys
        cases hComplete
        exact isCompletion_completeLink hKind hKeys

/-
  A relation can be completed exactly if its target is
  declared and it does not use one column for both sides.
-/
theorem exists_completeRelation_iff :
    (∃ result,
        completeRelation declared model relation =
          .ok result) ↔
      (declared.model? relation.target).isSome = true ∧
        ∀ link, relation.kind = .manyToMany link →
          link.forwardKey ≠ "" →
            link.forwardKey ≠
              if link.backwardKey = "" then
                model.table ++ "_id"
              else link.backwardKey := by
  unfold completeRelation
  cases hTarget : declared.model? relation.target with
  | none => simp
  | some target =>
      cases hKind : relation.kind with
      | foreignKey key => simp
      | backward key => simp
      | manyToMany link =>
          by_cases hKeys :
              (completeLink model.table target.table
                  link).forwardKey =
                (completeLink model.table target.table
                  link).backwardKey
          · rcases sameKeys_completeLink_iff.mp hKeys with
              ⟨hForward, hSame⟩
            simp only [hKeys, if_true]
            constructor
            · rintro ⟨_, hFault⟩
              cases hFault
            · rintro ⟨_, hOther⟩
              exact absurd hSame (hOther link rfl hForward)
          · have hDeclared :=
              mt sameKeys_completeLink_iff.mpr hKeys
            rw [not_and] at hDeclared
            simp only [hKeys, if_false]
            simpa using hDeclared

end Catalog

end Relmap

------------------------------------------------------------
-- Completed Fields
------------------------------------------------------------

namespace Relmap

namespace Field

/- All but the type and the role of a field is the same. -/
structure Keeps (original result : Field) : Prop where
  name : result.name = original.name
  column : result.column = original.column
  primaryKey : result.primaryKey = original.primaryKey
  nullable : result.nullable = original.nullable
  index : result.index = original.index
  description : result.description = original.description
  default : result.default = original.default

theorem Keeps.refl (field : Field) : field.Keeps field :=
  ⟨rfl, rfl, rfl, rfl, rfl, rfl, rfl⟩

theorem Keeps.trans
    {first second third : Field}
    (hFirst : first.Keeps second)
    (hSecond : second.Keeps third) :
    first.Keeps third :=
  ⟨hSecond.name.trans hFirst.name,
    hSecond.column.trans hFirst.column,
    hSecond.primaryKey.trans hFirst.primaryKey,
    hSecond.nullable.trans hFirst.nullable,
    hSecond.index.trans hFirst.index,
    hSecond.description.trans hFirst.description,
    hSecond.default.trans hFirst.default⟩

/- A field that is no more than a column under its name. -/
structure IsColumn (field : Field) : Prop where
  column : field.column = field.name
  primaryKey : field.primaryKey = false
  index : field.index = false

theorem Keeps.isColumn
    {original result : Field}
    (hKeeps : original.Keeps result)
    (hColumn : original.IsColumn) :
    result.IsColumn :=
  ⟨by rw [hKeeps.column, hColumn.column, hKeeps.name],
    hKeeps.primaryKey.trans hColumn.primaryKey,
    hKeeps.index.trans hColumn.index⟩

theorem keeps_trans
    {first second third : List Field}
    (hFirst : List.Forall₂ Keeps first second)
    (hSecond : List.Forall₂ Keeps second third) :
    List.Forall₂ Keeps first third := by
  induction hFirst generalizing third with
  | nil => exact hSecond
  | cons hHead _ ih =>
      cases hSecond with
      | cons hNext hRest =>
          exact .cons (hHead.trans hNext) (ih hRest)

theorem map_name_of_keeps
    {fields results : List Field}
    (hKeeps : List.Forall₂ Keeps fields results) :
    results.map name = fields.map name :=
  hKeeps.map_eq fun _ _ hKept => hKept.name

theorem countP_of_keeps
    {fields results : List Field}
    (hKeeps : List.Forall₂ Keeps fields results) :
    results.countP primaryKey = fields.countP primaryKey := by
  induction hKeeps with
  | nil => rfl
  | cons hFirst _ ih =>
      rw [List.countP_cons, List.countP_cons,
        hFirst.primaryKey, ih]

end Field

namespace Catalog

variable {column : Field}
variable {fields results : List Field}

/- A declared field of the name becomes the column. -/
theorem keeps_addBacking
    (hDeclared : column.name ∈ fields.map Field.name) :
    List.Forall₂ Field.Keeps fields
      (addBacking column fields) := by
  induction fields with
  | nil => cases hDeclared
  | cons field rest ih =>
      unfold addBacking
      split
      · refine .cons ⟨rfl, rfl, rfl, rfl, rfl, rfl, rfl⟩ ?_
        exact List.forall₂_same.mpr fun field _ => .refl field
      · rename_i hOther
        refine .cons (.refl field) (ih ?_)
        exact (List.mem_cons.mp hDeclared).resolve_left
          (Ne.symm hOther)

/- Without one the column is added behind all fields. -/
theorem addBacking_append
    {front : List Field}
    (hFront : column.name ∉ front.map Field.name)
    (back : List Field) :
    addBacking column (front ++ back) =
      front ++ addBacking column back := by
  induction front with
  | nil => rfl
  | cons field rest ih =>
      rw [List.map_cons, List.mem_cons, not_or] at hFront
      rw [List.cons_append, addBacking,
        if_neg (Ne.symm hFront.1), ih hFront.2]
      rfl

/- A column in front is found before those behind. -/
theorem addBacking_append_of_mem
    {front : List Field}
    (hFront : column.name ∈ front.map Field.name)
    (back : List Field) :
    addBacking column (front ++ back) =
      addBacking column front ++ back := by
  induction front with
  | nil => cases hFront
  | cons field rest ih =>
      rw [List.cons_append, addBacking, addBacking]
      split
      · rfl
      · rename_i hOther
        rw [ih ((List.mem_cons.mp hFront).resolve_left
          (Ne.symm hOther))]
        rfl

theorem addBacking_of_not_mem
    (hNew : column.name ∉ fields.map Field.name) :
    addBacking column fields = fields ++ [column] := by
  simpa [addBacking] using addBacking_append hNew []

/- Backing leaves names distinct. -/
theorem nodup_names_addBacking
    (hNodup : (fields.map Field.name).Nodup) :
    ((addBacking column fields).map Field.name).Nodup := by
  by_cases hOld : column.name ∈ fields.map Field.name
  · rw [Field.map_name_of_keeps (keeps_addBacking hOld)]
    exact hNodup
  · rw [addBacking_of_not_mem hOld, List.map_append,
      List.map_singleton, List.nodup_append]
    refine ⟨hNodup, List.pairwise_singleton _ _, ?_⟩
    intro name hName other hOther hSame
    rw [List.mem_singleton] at hOther
    exact hOld (hOther ▸ hSame ▸ hName)

/- What is backed was there, or is the column. -/
theorem exists_keeps_of_mem_addBacking
    {result : Field}
    (hResult : result ∈ addBacking column fields) :
    (∃ field ∈ fields, field.Keeps result) ∨
      result = column := by
  by_cases hOld : column.name ∈ fields.map Field.name
  · left
    exact (keeps_addBacking hOld).exists_of_mem_right hResult
  · rw [addBacking_of_not_mem hOld, List.mem_append,
      List.mem_singleton] at hResult
    exact hResult.imp_left fun hField =>
      ⟨result, hField, .refl result⟩

/-
  Fields are backed by keeping those that were declared, and
  adding columns under new names behind them.
-/
def Backs (fields results : List Field) : Prop :=
  ∃ kept added,
    results = kept ++ added ∧
      List.Forall₂ Field.Keeps fields kept ∧
      (added.map Field.name).Nodup ∧
      ∀ field ∈ added,
        field.name ∉ fields.map Field.name ∧ field.IsColumn

theorem backs_refl (fields : List Field) :
    Backs fields fields :=
  ⟨fields, [], (List.append_nil fields).symm,
    List.forall₂_same.mpr fun field _ => .refl field,
    .nil, by simp⟩

/- Another column keeps fields backed. -/
theorem Backs.concat
    (hBacks : Backs fields results)
    (hColumn : column.IsColumn) :
    Backs fields (addBacking column results) := by
  rcases hBacks with
    ⟨kept, added, rfl, hKept, hNodup, hAdded⟩
  by_cases hDeclared : column.name ∈ kept.map Field.name
  · exact ⟨addBacking column kept, added,
      addBacking_append_of_mem hDeclared added,
      Field.keeps_trans hKept (keeps_addBacking hDeclared),
      hNodup, hAdded⟩
  · refine ⟨kept, addBacking column added,
      addBacking_append hDeclared added, hKept,
      nodup_names_addBacking hNodup, ?_⟩
    intro result hResult
    rcases exists_keeps_of_mem_addBacking hResult with
      ⟨field, hField, hSame⟩ | rfl
    · rcases hAdded field hField with ⟨hNew, hPlain⟩
      rw [hSame.name]
      exact ⟨hNew, hSame.isColumn hPlain⟩
    · rw [← Field.map_name_of_keeps hKept]
      exact ⟨hDeclared, hColumn⟩

theorem isColumn_backingField
    (relation : String)
    (key : ForeignKey)
    (referenced : Field) :
    (backingField relation key referenced).IsColumn :=
  ⟨rfl, rfl, rfl⟩

variable {declared : Catalog}

/- All relations together keep fields backed. -/
theorem backs_foldl_backRelation
    (hBacks : Backs fields results)
    (relations : List Relation) :
    Backs fields
      (relations.foldl (backRelation declared) results) := by
  induction relations generalizing results with
  | nil => exact hBacks
  | cons relation rest ih =>
      rw [List.foldl_cons]
      apply ih
      unfold backRelation
      split
      · split
        · exact hBacks.concat (isColumn_backingField _ _ _)
        · exact hBacks
      · exact hBacks

/- Backing adds the fields of foreign keys and no others. -/
theorem mem_names_foldl_backRelation_iff
    {relations : List Relation}
    (hKeyed :
      ∀ relation ∈ relations,
        ((declared.model? relation.target).bind
          Model.primaryKey?).isSome = true)
    {name : String} :
    name ∈ (relations.foldl (backRelation declared)
        fields).map Field.name ↔
      name ∈ fields.map Field.name ∨
        name ∈ relations.filterMap Relation.sourceField? := by
  induction relations generalizing fields with
  | nil => simp
  | cons relation rest ih =>
      rw [List.forall_mem_cons] at hKeyed
      rcases Option.isSome_iff_exists.mp hKeyed.1 with
        ⟨referenced, hReferenced⟩
      rw [List.foldl_cons, ih hKeyed.2, List.filterMap_cons]
      unfold backRelation Relation.sourceField?
        Relation.foreignKey?
      cases hKind : relation.kind with
      | foreignKey key =>
          simp only [hReferenced, mem_names_addBacking,
            Option.map_some, List.mem_cons]
          rw [backingField, or_comm (a := name = _), or_assoc]
      | backward key => simp
      | manyToMany link => simp

end Catalog

end Relmap

------------------------------------------------------------
-- Completed Models
------------------------------------------------------------

namespace Relmap

namespace Relation

variable {originals results : List Relation}

theorem map_name_of_isCompletion
    (hComplete : List.Forall₂ IsCompletion originals results) :
    results.map name = originals.map name :=
  hComplete.map_eq fun _ _ hDone => hDone.name

theorem sources_of_isCompletion
    (hComplete : List.Forall₂ IsCompletion originals results) :
    results.filterMap sourceField? =
      originals.filterMap sourceName? := by
  induction hComplete with
  | nil => rfl
  | cons hFirst _ ih =>
      rw [List.filterMap_cons, List.filterMap_cons,
        hFirst.source, ih]

end Relation

namespace Catalog

variable {declared : Catalog}
variable {model complete : Model}

/- A model can be completed if its relations can. -/
theorem exists_linkModel_iff :
    (∃ complete, linkModel declared model = .ok complete) ↔
      ∀ relation ∈ model.relations,
        ∃ result,
          completeRelation declared model relation =
            .ok result := by
  rw [← List.exists_mapM_eq_ok_iff]
  simp only [linkModel, Except.bind_eq_ok_iff]
  constructor
  · rintro ⟨_, relations, hRelations, _⟩
    exact ⟨relations, hRelations⟩
  · rintro ⟨relations, hRelations⟩
    exact ⟨_, relations, hRelations, rfl⟩

/- The members of a completed model are completed. -/
structure IsCompletion
    (declared : Catalog)
    (model complete : Model) : Prop where
  same :
    complete =
      { model with
        fields := complete.fields
        relations := complete.relations }
  relations :
    List.Forall₂ Relation.IsCompletion model.relations
      complete.relations
  fields :
    complete.fields =
      complete.relations.foldl (backRelation declared)
        model.fields
  targets :
    ∀ relation ∈ complete.relations,
      (declared.model? relation.target).isSome = true

theorem isCompletion_of_linkModel
    (hLink : linkModel declared model = .ok complete) :
    IsCompletion declared model complete := by
  have hTargets := @target_of_linkModel _ _ _ hLink
  rcases linkModel_eq_ok hLink with ⟨relations, hEach, rfl⟩
  refine ⟨rfl, ?_, rfl, fun relation => hTargets⟩
  exact hEach.imp fun _ _ => isCompletion_of_completeRelation

/- The targets of a completed model have their keys. -/
theorem IsCompletion.keyed
    (hComplete : IsCompletion declared model complete)
    (hKeyed :
      ∀ model ∈ declared.models,
        model.primaryKey?.isSome = true) :
    ∀ relation ∈ complete.relations,
      ((declared.model? relation.target).bind
        Model.primaryKey?).isSome = true := by
  intro relation hRelation
  rcases Option.isSome_iff_exists.mp
      (hComplete.targets relation hRelation) with
    ⟨target, hTarget⟩
  rw [hTarget]
  exact hKeyed target (model?_eq_some hTarget).1

/- A completed model has declared fields and those of keys. -/
theorem IsCompletion.mem_names_iff
    (hComplete : IsCompletion declared model complete)
    (hKeyed :
      ∀ model ∈ declared.models,
        model.primaryKey?.isSome = true)
    {name : String} :
    name ∈ complete.fields.map Field.name ↔
      name ∈ model.fields.map Field.name ∨
        name ∈
          model.relations.filterMap Relation.sourceName? := by
  rw [hComplete.fields, mem_names_foldl_backRelation_iff
    (hComplete.keyed hKeyed),
    Relation.sources_of_isCompletion hComplete.relations]

/- Linked models are completed and have their reverses. -/
theorem IsLinking.exists_isCompletion
    {models linked : List Model}
    {catalog : Catalog}
    (hLinking : IsLinking models linked catalog)
    (hModel : model ∈ catalog.models) :
    ∃ original ∈ models, ∃ complete ∈ linked,
      IsCompletion ⟨models.map withTable⟩
          (withTable original) complete ∧
        model =
          complete.withReverses
            (linked.flatMap reversesOf) := by
  rw [hLinking.reversed] at hModel
  rcases List.mem_map.mp hModel with ⟨complete, hMember, rfl⟩
  rcases hLinking.each.exists_of_mem_right hMember with
    ⟨_, hDeclared, hLink⟩
  rcases List.mem_map.mp hDeclared with
    ⟨original, hOriginal, rfl⟩
  exact ⟨original, hOriginal, complete, hMember,
    isCompletion_of_linkModel hLink, rfl⟩

end Catalog

end Relmap
