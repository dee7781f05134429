import Relmap.Proofs.Catalog.KeyTypes
import Relmap.Proofs.Schema.Assembly

/-
  Which foreign keys the text of a table enforces.

  Linking gives every foreign key a field that knows the
  relation, and the column of that field is written with one
  foreign key, to the key of the target. The column of a key
  that the database generates is written without one, and
  where two relations share a name, or two fields a column,
  a foreign key is not what its relation asks for.

  Main declarations:
    * `Style.Generates`
    * `Planner.backing`
    * `Style.SaysGenerated`
    * `Style.SaysKey`
    * `Planner.PlansKey`
    * `Planner.references_of_plansKey`
    * `Planner.exists_key_not_enforced`
-/

------------------------------------------------------------
-- Generated Columns
------------------------------------------------------------

namespace Relmap

namespace Style

/-
  The column of a field is written without the foreign key
  that the field backs: the field is a primary key of a type
  for which keys are generated, and the relation is not one
  to one.
-/
def Generates
    (style : Style)
    (field : Field)
    (key : ForeignKey) : Prop :=
  field.primaryKey = true ∧ key.oneToOne = false ∧
    (style.keyWords? field.type).isSome = true

instance
    (style : Style)
    (field : Field)
    (key : ForeignKey) :
    Decidable (style.Generates field key) := by
  unfold Generates
  infer_instance

variable {style : Style}
variable {model : Model}
variable {field : Field}
variable {relation : Relation}
variable {key : ForeignKey}

/- It is the column of a generated key. -/
theorem generates_iff
    (hBacked : Planner.BacksKey model field (relation, key)) :
    style.Generates field key ↔
      ∃ words, style.IsGenerated model field words := by
  constructor
  · rintro ⟨hPrimary, hNotOneToOne, hWords⟩
    rcases Option.isSome_iff_exists.mp hWords with
      ⟨words, hWords⟩
    refine ⟨words, hPrimary, ?_, hWords⟩
    intro other hOther
    rw [← hBacked.unique hOther]
    exact hNotOneToOne
  · rintro ⟨words, hPrimary, hNotOneToOne, hWords⟩
    exact ⟨hPrimary, hNotOneToOne _ hBacked,
      Option.isSome_of_eq_some hWords⟩

end Style

end Relmap

------------------------------------------------------------
-- Keys By Column
------------------------------------------------------------

namespace Relmap

namespace Planner

/- The fields of a column that back foreign keys. -/
def backing
    (model : Model)
    (column : String)
    (fields : List Field) : List Field :=
  fields.filter fun field =>
    (backedKey? model field).isSome ∧ field.column = column

variable {planner : Planner}
variable {style : Style}
variable {model : Model}
variable {field : Field}

/- The keys of a column are those of its fields. -/
private theorem filter_writtenKeys
    (column : String)
    (fields : List Field) :
    (style.writtenKeys model fields).filter
        (fun written => written.1.column = column) =
      style.writtenKeys model
        (backing model column fields) := by
  induction fields with
  | nil => rfl
  | cons first rest ih =>
      rw [Style.writtenKeys, List.flatMap_cons,
        List.filter_append, ← Style.writtenKeys, ih]
      unfold backing
      rw [List.filter_cons]
      split
      · rename_i hBacking
        rw [decide_eq_true_eq] at hBacking
        rw [Style.writtenKeys, Style.writtenKeys,
          List.flatMap_cons, List.append_left_inj,
          List.filter_eq_self]
        intro written hWritten
        rcases List.mem_map.mp hWritten with ⟨_, _, rfl⟩
        exact decide_eq_true hBacking.2
      · rename_i hBacking
        have hNone :
            ((style.writtenKey? model first).toList.map
                fun backed => (first, backed)).filter
                (fun written => written.1.column = column) =
              [] := by
          rw [List.filter_eq_nil_iff]
          intro written hWritten hColumn
          rcases List.mem_map.mp hWritten with
            ⟨backed, hBacked, rfl⟩
          rw [Option.mem_toList] at hBacked
          apply hBacking
          rw [decide_eq_true_eq, backedKey?_eq_some_iff.mpr
            (Style.backsKey_of_writtenKey? hBacked)]
          exact ⟨rfl, of_decide_eq_true hColumn⟩
        rw [hNone, List.nil_append]

/- If no field shares the column, its key is the only one. -/
theorem filter_writtenKeys_of_backing
    (hField : field ∈ model.fields)
    {backed : Relation × ForeignKey}
    (hBacked : BacksKey model field backed)
    (hOwn :
      (backing model field.column model.fields).length ≤ 1) :
    (style.writtenKeys model model.fields).filter
        (fun written => written.1.column = field.column) =
      (style.writtenKey? model field).toList.map
        fun backed => (field, backed) := by
  have hMember :
      field ∈ backing model field.column model.fields :=
    List.mem_filter.mpr ⟨hField, decide_eq_true
      ⟨Option.isSome_of_eq_some
        (backedKey?_eq_some_iff.mpr hBacked), rfl⟩⟩
  have hSingle :
      backing model field.column model.fields = [field] := by
    have hPositive := List.length_pos_of_mem hMember
    rcases List.length_eq_one_iff.mp
        (Nat.le_antisymm hOwn hPositive) with
      ⟨only, hOnly⟩
    rw [hOnly, List.mem_singleton] at hMember
    rw [hOnly, hMember]
  rw [filter_writtenKeys, hSingle, Style.writtenKeys,
    List.flatMap_cons, List.flatMap_nil, List.append_nil]

section KeysOfColumn

variable {relation : Relation}
variable {key : ForeignKey}
variable {layout : TableLayout}

/- The keys of the column are those of the field. -/
private theorem keys_of_column
    (hLayout : planner.IsLayoutOf style model layout)
    (hField : field ∈ model.fields)
    (hBacked : BacksKey model field (relation, key))
    (hOwn :
      (backing model field.column model.fields).length ≤ 1) :
    List.Forall₂ (planner.IsKeyOf model.table)
      ((style.writtenKey? model field).toList.map
        fun backed => (field, backed))
      (layout.keys.filter fun key =>
        key.column = field.column) := by
  rw [← filter_writtenKeys_of_backing hField hBacked hOwn]
  refine List.rel_filter ?_ hLayout.keys
  intro written key hKey
  dsimp only
  rw [hKey.column]

/- A column that is generated has no foreign key. -/
theorem column_ne_of_generates
    (hLayout : planner.IsLayoutOf style model layout)
    (hField : field ∈ model.fields)
    (hBacked : BacksKey model field (relation, key))
    (hOwn :
      (backing model field.column model.fields).length ≤ 1)
    (hGenerates : style.Generates field key) :
    ∀ other ∈ layout.keys, other.column ≠ field.column := by
  have hKeys := keys_of_column hLayout hField hBacked hOwn
  rcases (Style.generates_iff hBacked).mp hGenerates with
    ⟨words, hWords⟩
  rw [hWords.writtenKey?_eq_none] at hKeys
  have hNone := List.forall₂_nil_left_iff.mp hKeys
  rw [List.filter_eq_nil_iff] at hNone
  intro other hOther hColumn
  exact hNone other hOther (decide_eq_true hColumn)

/- Any other column has the one that its field backs. -/
private theorem filter_keys_of_not_generates
    (hLayout : planner.IsLayoutOf style model layout)
    (hField : field ∈ model.fields)
    (hBacked : BacksKey model field (relation, key))
    (hOwn :
      (backing model field.column model.fields).length ≤ 1)
    (hGenerates : ¬ style.Generates field key) :
    ∃ written,
      layout.keys.filter
          (fun key => key.column = field.column) =
        [written] ∧
        planner.IsKeyOf model.table (field, relation, key)
          written := by
  have hKeys := keys_of_column hLayout hField hBacked hOwn
  rw [Style.generates_iff hBacked, not_exists] at hGenerates
  rw [Style.writtenKey?_of_backsKey hGenerates hBacked] at hKeys
  rcases List.forall₂_cons_left_iff.mp hKeys with
    ⟨written, others, hKey, hOthers, hFilter⟩
  rw [List.forall₂_nil_left_iff.mp hOthers] at hFilter
  exact ⟨written, hFilter, hKey⟩

end KeysOfColumn

end Planner

end Relmap

------------------------------------------------------------
-- Entries Of Columns
------------------------------------------------------------

namespace Relmap

namespace Style

/- The comment at the end of the column of a field. -/
def fieldNotes
    (style : Style)
    (model : Model)
    (field : Field) : List String :=
  style.noteWords
    (field.description.map
      (style.columnNote model.table field.column))

/-
  A body has the column of a field as a generated key: its
  name, the words for its type and its comment.
-/
def SaysGenerated
    (style : Style)
    (model : Model)
    (field : Field)
    (body : List String) : Prop :=
  ∃ words,
    style.keyWords? field.type = some words ∧
      sentence
          (style.identifier field.column :: words ++
            style.fieldNotes model field) ∈
        body

/-
  A body has a foreign key for the column of a field: as an
  entry of its own if keys stand inside, or else between the
  words of the column and its comment.
-/
def SaysKey
    (style : Style)
    (model : Model)
    (field : Field)
    (key : KeyLayout)
    (body : List String) : Prop :=
  if style.keysInside then style.keyText key ∈ body
  else
    ∃ columnType,
      style.dialect.columnType field.type = .ok columnType ∧
        sentence
            (style.identifier field.column ::
              columnWords field columnType ++
              style.keyText key ::
              style.fieldNotes model field) ∈
          body

end Style

namespace Planner

variable {planner : Planner}
variable {style : Style}
variable {model : Model}
variable {field : Field}
variable {relation : Relation}
variable {key : ForeignKey}
variable {layout : TableLayout}

/- The column of a field is an entry of the body. -/
theorem exists_column_entry
    (hLayout : planner.IsLayoutOf style model layout)
    (hField : field ∈ model.fields)
    (config : SchemaConfig) :
    ∃ column ∈ layout.columns,
      planner.IsColumnOf style model field column ∧
        column.text style model.table ∈
          layout.body style config := by
  rcases hLayout.columns.exists_of_mem_left hField with
    ⟨column, hColumn, hIsColumn⟩
  refine ⟨column, hColumn, hIsColumn, ?_⟩
  rw [← hLayout.name]
  exact List.mem_append_left _
    (List.mem_append_left _ (List.mem_map_of_mem hColumn))

/- A generated column is said as one. -/
theorem saysGenerated_of_generates
    (hLayout : planner.IsLayoutOf style model layout)
    (hField : field ∈ model.fields)
    (hBacked : BacksKey model field (relation, key))
    (hGenerates : style.Generates field key)
    (config : SchemaConfig) :
    style.SaysGenerated model field
      (layout.body style config) := by
  rcases (Style.generates_iff hBacked).mp hGenerates with
    ⟨words, hWords⟩
  rcases exists_column_entry hLayout hField config with
    ⟨column, _, hIsColumn, hEntry⟩
  cases hIsColumn with
  | @generated other hOther =>
      refine ⟨other, hOther.keyWords, ?_⟩
      simpa [ColumnLayout.text, ColumnLayout.note?,
        Style.fieldNotes] using hEntry
  | plain hNone _ _ => exact absurd hWords (hNone words)
  | referencing hNone _ _ _ => exact absurd hWords (hNone words)

/- The foreign key of any other column is said as well. -/
theorem exists_saysKey_of_not_generates
    (hLayout : planner.IsLayoutOf style model layout)
    (hField : field ∈ model.fields)
    (hBacked : BacksKey model field (relation, key))
    (hGenerates : ¬ style.Generates field key)
    (config : SchemaConfig) :
    ∃ written ∈ layout.keys,
      written.column = field.column ∧
        style.SaysKey model field written
          (layout.body style config) := by
  rw [Style.generates_iff hBacked, not_exists] at hGenerates
  rcases exists_column_entry hLayout hField config with
    ⟨column, hColumn, hIsColumn, hEntry⟩
  cases hIsColumn with
  | generated hSome => exact absurd hSome (hGenerates _)
  | plain _ hNone _ => exact absurd hBacked (hNone _)
  | @referencing columnType _ written _ _ hType hKey =>
      have hMember : written ∈ layout.keys :=
        List.mem_filterMap.mpr ⟨_, hColumn, rfl⟩
      refine ⟨written, hMember, hKey.column, ?_⟩
      unfold Style.SaysKey
      cases hInside : style.keysInside with
      | true =>
          rw [if_pos rfl, TableLayout.body, if_pos hInside]
          exact List.mem_append_right _
            (List.mem_append_right _
              (List.mem_map_of_mem hMember))
      | false =>
          rw [if_neg Bool.false_ne_true]
          refine ⟨columnType, hType, ?_⟩
          simpa [ColumnLayout.text, ColumnLayout.note?,
            Style.fieldNotes, hInside] using hEntry

/-
  A column that is not generated has exactly one foreign key
  and the body says it.
-/
theorem exists_key_of_not_generates
    (hLayout : planner.IsLayoutOf style model layout)
    (hField : field ∈ model.fields)
    (hBacked : BacksKey model field (relation, key))
    (hOwn :
      (backing model field.column model.fields).length ≤ 1)
    (hGenerates : ¬ style.Generates field key)
    (config : SchemaConfig) :
    ∃ written ∈ layout.keys,
      layout.keys.filter
          (fun other => other.column = field.column) =
        [written] ∧
        planner.IsKeyOf model.table (field, relation, key)
          written ∧
        style.SaysKey model field written
          (layout.body style config) := by
  rcases filter_keys_of_not_generates hLayout hField hBacked
      hOwn hGenerates with
    ⟨written, hFilter, hKey⟩
  rcases exists_saysKey_of_not_generates hLayout hField
      hBacked hGenerates config with
    ⟨other, hOther, hColumn, hSays⟩
  have hSame : other = written := by
    rw [← List.mem_singleton, ← hFilter]
    exact List.mem_filter.mpr
      ⟨hOther, decide_eq_true hColumn⟩
  rw [hSame] at hOther hSays
  exact ⟨written, hOther, hFilter, hKey, hSays⟩

end Planner

end Relmap

------------------------------------------------------------
-- Enforced Keys
------------------------------------------------------------

namespace Relmap

namespace Catalog

/- The field of a foreign key knows the relation it backs. -/
theorem exists_reference_of_link
    {models : List Model}
    {catalog : Catalog}
    (hLink : link models = .ok catalog)
    {model : Model}
    (hModel : model ∈ catalog.models)
    (hSources :
      (model.relations.filterMap
        Relation.sourceField?).Nodup)
    {relation : Relation}
    (hRelation : relation ∈ model.relations)
    {source : String}
    (hSource : relation.sourceField? = some source) :
    ∃ field,
      model.field? source = some field ∧
        field.reference = some relation.name := by
  rcases isLinking_of_link hLink with ⟨linked, hLinking⟩
  rcases hLinking.exists_isCompletion hModel with
    ⟨original, _, complete, _, hComplete, rfl⟩
  rw [Model.withReverses, List.filterMap_append,
    List.nodup_append,
    Relation.sources_of_isCompletion
      hComplete.relations] at hSources
  rcases hComplete.exists_column hLinking.keyed hSources.1
      (mem_relations_of_source hRelation hSource) hSource with
    ⟨field, hField, _, hReference⟩
  exact ⟨field, hField, hReference⟩

end Catalog

namespace Planner

/-
  A foreign key of a model in a linked catalog, where foreign
  keys of one model have fields of their own, and the plan
  of the model in a built-in dialect.
-/
structure PlansKey
    (planner : Planner)
    (style : Style)
    (models : List Model)
    (model : Model)
    (relation : Relation)
    (key : ForeignKey)
    (plan : TablePlan) : Prop where
  linked : Catalog.link models = .ok planner.catalog
  builtIn : planner.dialect = style.dialect
  sources :
    ∀ model ∈ planner.catalog.models,
      (model.relations.filterMap
        Relation.sourceField?).Nodup
  member : model ∈ planner.catalog.models
  declared : relation ∈ model.relations
  kind : relation.foreignKey? = some key
  planned : planner.tablePlan model = .ok plan

variable {planner : Planner}
variable {style : Style}
variable {models : List Model}
variable {model : Model}
variable {relation : Relation}
variable {key : ForeignKey}
variable {plan : TablePlan}

/- The field of the key backs it, under the first such name. -/
theorem exists_backsKey_of_plansKey
    (hPlans :
      planner.PlansKey style models model relation key plan)
    (hFirst :
      model.relation? relation.name = some relation) :
    ∃ field,
      model.field? key.sourceField = some field ∧
        BacksKey model field (relation, key) := by
  have hSource :
      relation.sourceField? = some key.sourceField := by
    rw [Relation.sourceField?, hPlans.kind, Option.map_some]
  rcases Catalog.exists_reference_of_link hPlans.linked
      hPlans.member (hPlans.sources model hPlans.member)
      hPlans.declared hSource with
    ⟨field, hField, hReference⟩
  refine ⟨field, hField, ?_⟩
  rw [← backedKey?_eq_some_iff]
  simp [backedKey?, hReference, hFirst, hPlans.kind]

/-
  A foreign key that is the first relation of its name, and
  whose field shares its column with no other that backs a
  foreign key. If the column is generated then it is written
  with the words of a generated key, and the table has no
  foreign key for it. Otherwise the table has exactly one, in
  its body: it is to the table of the target and the key of
  that, with the policy of the relation, and the table is
  recorded.
-/
theorem references_of_plansKey
    (hPlans :
      planner.PlansKey style models model relation key plan)
    (hFirst :
      model.relation? relation.name = some relation)
    (hOwn :
      ∀ field ∈ model.field? key.sourceField,
        (backing model field.column
          model.fields).length ≤ 1) :
    ∃ field target layout,
      model.field? key.sourceField = some field ∧
      planner.catalog.model? relation.target = some target ∧
      planner.IsLayoutOf style model layout ∧
      planner.Writes style layout plan.definition ∧
      (style.Generates field key →
        (∀ other ∈ layout.keys,
          other.column ≠ field.column) ∧
        style.SaysGenerated model field
          (layout.body style planner.config)) ∧
      (¬ style.Generates field key →
        ∃ written targetKey,
          layout.keys.filter
              (fun other => other.column = field.column) =
            [written] ∧
          target.keyColumn = .ok targetKey ∧
          written.table = target.table ∧
          written.field = targetKey ∧
          written.onDelete = key.onDelete ∧
          target.table ∈ plan.references ∧
          style.SaysKey model field written
            (layout.body style planner.config)) := by
  rcases exists_backsKey_of_plansKey hPlans hFirst with
    ⟨field, hField, hBacked⟩
  rcases Option.isSome_iff_exists.mp
      ((Catalog.isLinked_of_link hPlans.linked).targets model
        hPlans.member relation hPlans.declared) with
    ⟨target, hTarget⟩
  rcases exists_modelLayout_of_tablePlan hPlans.builtIn
      hPlans.planned with
    ⟨⟨layout, links⟩, hModelLayout, hWrites⟩
  have hLayout := hModelLayout.isTable
  have hMember := (Model.field?_eq_some hField).1
  have hOwn := hOwn field hField
  refine ⟨field, target, layout, hField, hTarget, hLayout,
    hWrites.definition, ?_, ?_⟩
  · intro hGenerates
    exact ⟨column_ne_of_generates hLayout hMember hBacked hOwn
        hGenerates,
      saysGenerated_of_generates hLayout hMember hBacked
        hGenerates planner.config⟩
  · intro hGenerates
    rcases exists_key_of_not_generates hLayout hMember hBacked
        hOwn hGenerates planner.config with
      ⟨written, hWritten, hFilter, hKey, hSays⟩
    rcases hKey.target with ⟨found, hFound, hTable, hTargetKey⟩
    rw [hTarget] at hFound
    cases hFound
    have hRecorded :=
      (hWrites.recorded target.table).mpr
        ⟨written, hWritten, hTable⟩
    exact ⟨written, written.field, hFilter, hTargetKey,
      hTable, rfl, hKey.onDelete, hRecorded, hSays⟩

/-
  A key of some models, whose table passes a test of the
  entries of its body and of its foreign keys.
-/
private theorem exists_plansKey
    (style : Style)
    (models : List Model)
    (test :
      Planner → Model → Relation → ForeignKey →
        List String → List KeyLayout → Bool)
    (hAny :
      (Catalog.link models).toOption.any (fun catalog =>
        (catalog.models.all fun model =>
          (model.relations.filterMap
            Relation.sourceField?).Nodup) &&
        catalog.models.any fun model =>
          model.relations.any fun relation =>
            relation.foreignKey?.any fun key =>
              (tablePlan ⟨catalog, style.dialect, {}⟩
                  model).toOption.any fun plan =>
                test ⟨catalog, style.dialect, {}⟩ model
                  relation key
                  (plan.definition.entries.map Entry.text)
                  (plan.definition.references.map
                    Reference.key)) = true) :
    ∃ planner model relation key plan layout,
      PlansKey planner style models model relation key plan ∧
        planner.IsLayoutOf style model layout ∧
        planner.Writes style layout plan.definition ∧
        test planner model relation key
          (layout.body style planner.config) layout.keys =
            true := by
  rcases Except.exists_of_any hAny with
    ⟨catalog, hLink, hFound⟩
  rcases Bool.and_eq_true_iff.mp hFound with
    ⟨hSources, hFound⟩
  rcases List.any_eq_true.mp hFound with
    ⟨model, hModel, hFound⟩
  rcases List.any_eq_true.mp hFound with
    ⟨relation, hRelation, hFound⟩
  rcases (Option.any_eq_true ..).mp hFound with
    ⟨key, hKey, hFound⟩
  rcases Except.exists_of_any hFound with
    ⟨plan, hPlan, hTest⟩
  simp only [List.all_eq_true, decide_eq_true_eq] at hSources
  have hPlans :
      PlansKey ⟨catalog, style.dialect, {}⟩ style models model
        relation key plan :=
    { linked := hLink
      builtIn := rfl
      sources := hSources
      member := hModel
      declared := hRelation
      kind := hKey
      planned := hPlan }
  rcases exists_modelLayout_of_tablePlan rfl hPlan with
    ⟨layout, hLayout, hWrites⟩
  rw [hWrites.definition.entries,
    hWrites.definition.references] at hTest
  exact ⟨_, model, relation, key, plan, layout.table, hPlans,
    hLayout.isTable, hWrites.definition, hTest⟩

/- Persons, firms and the cards that belong to them. -/
private def cardModels
    (fields : List Field)
    (relations : List Relation) : List Model :=
  [{ name := "Person"
     table := "person"
     fields := [.keyOfType "id" (.named FieldType.intName)] },
    { name := "Firm"
      table := "firm"
      fields := [.keyOfType "id" (.named FieldType.intName)] },
    { name := "Card"
      table := "card"
      fields :=
        .keyOfType "id" (.named FieldType.intName) :: fields
      relations := relations }]

/- Cards of an owner. -/
private def ownedCards : List Model :=
  cardModels [] [.toOne "owner" "Person"]

/- Cards with the number of their owner. -/
private def numberedCards : List Model :=
  cardModels []
    [(Relation.toOne "owner" "Person").withSourceField "id"]

/- Cards of two owners. -/
private def sharedCards : List Model :=
  cardModels []
    [.toOne "owner" "Person",
      (Relation.toOne "owner" "Firm").withSourceField
        "firm_id"]

/- Cards whose owner keeps them. -/
private def keptCards : List Model :=
  cardModels
    [{ Field.ofType "owner_id" (.named FieldType.intName) with
        sourceField := some "holder" },
      { Field.ofType "keeper_id" (.named FieldType.intName) with
        sourceField := some "holder" }]
    [.toOne "owner" "Person", .toOne "keeper" "Person"]

/- The owner of a card is referenced in its column. -/
theorem references_of_plansKey_owner :
    ∃ planner model relation key plan,
      PlansKey planner .postgres ownedCards model relation key
          plan ∧
        model.relation? relation.name = some relation ∧
        (∀ field ∈ model.field? key.sourceField,
          (backing model field.column
            model.fields).length ≤ 1) ∧
        ∃ field target layout written,
          model.field? key.sourceField = some field ∧
            planner.catalog.model? relation.target =
              some target ∧
            planner.IsLayoutOf .postgres model layout ∧
            layout.body .postgres planner.config =
              ["\"id\" SERIAL NOT NULL PRIMARY KEY",
                "\"owner_id\" INT NOT NULL REFERENCES " ++
                  "\"person\" (\"id\") ON DELETE CASCADE"] ∧
            layout.keys.filter
                (fun other => other.column = field.column) =
              [written] ∧
            written.table = target.table ∧
            target.table ∈ plan.references := by
  rcases exists_plansKey .postgres ownedCards
      (fun _ model relation key body _ =>
        model.relation? relation.name = some relation ∧
          (∀ field ∈ model.field? key.sourceField,
            (backing model field.column
              model.fields).length ≤ 1) ∧
          (∀ field ∈ model.field? key.sourceField,
            ¬ Style.postgres.Generates field key) ∧
          body =
            ["\"id\" SERIAL NOT NULL PRIMARY KEY",
              "\"owner_id\" INT NOT NULL REFERENCES " ++
                "\"person\" (\"id\") ON DELETE CASCADE"])
      (by decide +kernel) with
    ⟨planner, model, relation, key, plan, _, hPlans, _,
      hWritten, hTest⟩
  rcases of_decide_eq_true hTest with
    ⟨hFirst, hOwn, hGenerates, hBody⟩
  rcases references_of_plansKey hPlans hFirst hOwn with
    ⟨field, target, layout, hField, hTarget, hLayout, hWrites,
      _, hKey⟩
  rcases hKey (hGenerates field hField) with
    ⟨written, _, hFilter, _, hTable, _, _, hRecorded, _⟩
  rw [← hWritten.entries, hWrites.entries] at hBody
  exact ⟨planner, model, relation, key, plan, hPlans, hFirst,
    hOwn, field, target, layout, written, hField, hTarget,
    hLayout, hBody, hFilter, hTable, hRecorded⟩

/-
  A key that is generated has no foreign key. With two
  relations of one name, the field of the second is a foreign
  key to the target of the first. If two fields have one
  column, it has two foreign keys.
-/
theorem exists_key_not_enforced :
    (∃ planner model relation key plan layout,
      PlansKey planner .sqlite numberedCards model relation key
          plan ∧
        planner.IsLayoutOf .sqlite model layout ∧
        planner.Writes .sqlite layout plan.definition ∧
        layout.body .sqlite planner.config =
          ["\"id\" INTEGER PRIMARY KEY AUTOINCREMENT " ++
            "NOT NULL"] ∧
        ∃ field,
          model.field? key.sourceField = some field ∧
            ∀ other ∈ layout.keys,
              other.column ≠ field.column) ∧
    (∃ planner model relation key plan layout,
      PlansKey planner .postgres sharedCards model relation key
          plan ∧
        planner.IsLayoutOf .postgres model layout ∧
        planner.Writes .postgres layout plan.definition ∧
        layout.body .postgres planner.config =
          ["\"id\" SERIAL NOT NULL PRIMARY KEY",
            "\"owner_id\" INT NOT NULL REFERENCES " ++
              "\"person\" (\"id\") ON DELETE CASCADE",
            "\"firm_id\" INT NOT NULL REFERENCES " ++
              "\"person\" (\"id\") ON DELETE CASCADE"] ∧
        ∃ field target,
          model.field? key.sourceField = some field ∧
          planner.catalog.model? relation.target =
            some target ∧
          ∃ other ∈ layout.keys,
            other.column = field.column ∧
              other.table ≠ target.table) ∧
    ∃ planner model relation key plan layout,
      PlansKey planner (.standard "default") keptCards model
          relation key plan ∧
        planner.IsLayoutOf (.standard "default") model
          layout ∧
        planner.Writes (.standard "default") layout
          plan.definition ∧
        layout.body (.standard "default") planner.config =
          ["\"id\" INT NOT NULL PRIMARY KEY",
            "\"holder\" INT NOT NULL REFERENCES " ++
              "\"person\" (\"id\") ON DELETE CASCADE",
            "\"holder\" INT NOT NULL REFERENCES " ++
              "\"person\" (\"id\") ON DELETE CASCADE"] ∧
        ∃ field,
          model.field? key.sourceField = some field ∧
            1 < (layout.keys.filter fun other =>
              other.column = field.column).length := by
  refine ⟨?_, ?_, ?_⟩
  · rcases exists_plansKey .sqlite numberedCards
        (fun _ model _ key body keys =>
          body =
              ["\"id\" INTEGER PRIMARY KEY AUTOINCREMENT " ++
                "NOT NULL"] ∧
            (model.field? key.sourceField).any fun field =>
              keys.all fun other =>
                other.column ≠ field.column)
        (by decide +kernel) with
      ⟨planner, model, relation, key, plan, layout, hPlans,
        hLayout, hWrites, hTest⟩
    simp only [Option.any_eq_true, List.all_eq_true,
      decide_eq_true_eq] at hTest
    exact ⟨planner, model, relation, key, plan, layout, hPlans,
      hLayout, hWrites, hTest⟩
  · rcases exists_plansKey .postgres sharedCards
        (fun planner model relation key body keys =>
          body =
              ["\"id\" SERIAL NOT NULL PRIMARY KEY",
                "\"owner_id\" INT NOT NULL REFERENCES " ++
                  "\"person\" (\"id\") ON DELETE CASCADE",
                "\"firm_id\" INT NOT NULL REFERENCES " ++
                  "\"person\" (\"id\") ON DELETE CASCADE"] ∧
            (model.field? key.sourceField).any fun field =>
              (planner.catalog.model? relation.target).any
                fun target =>
                  keys.any fun other =>
                    other.column = field.column ∧
                      other.table ≠ target.table)
        (by decide +kernel) with
      ⟨planner, model, relation, key, plan, layout, hPlans,
        hLayout, hWrites, hTest⟩
    simp only [Option.any_eq_true, List.any_eq_true,
      decide_eq_true_eq] at hTest
    rcases hTest with
      ⟨hBody, field, hField, target, hTarget, hKey⟩
    exact ⟨planner, model, relation, key, plan, layout, hPlans,
      hLayout, hWrites, hBody, field, target, hField, hTarget,
      hKey⟩
  · rcases exists_plansKey (.standard "default") keptCards
        (fun _ model _ key body keys =>
          body =
              ["\"id\" INT NOT NULL PRIMARY KEY",
                "\"holder\" INT NOT NULL REFERENCES " ++
                  "\"person\" (\"id\") ON DELETE CASCADE",
                "\"holder\" INT NOT NULL REFERENCES " ++
                  "\"person\" (\"id\") ON DELETE CASCADE"] ∧
            (model.field? key.sourceField).any fun field =>
              1 < (keys.filter fun other =>
                other.column = field.column).length)
        (by decide +kernel) with
      ⟨planner, model, relation, key, plan, layout, hPlans,
        hLayout, hWrites, hTest⟩
    simp only [Option.any_eq_true, decide_eq_true_eq] at hTest
    exact ⟨planner, model, relation, key, plan, layout, hPlans,
      hLayout, hWrites, hTest⟩

end Planner

end Relmap
