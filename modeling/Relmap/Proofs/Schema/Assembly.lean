import Relmap.Proofs.Schema.Layout
import Relmap.Proofs.Text.Ordered

/-
  The assembly of a table: a plan writes the layout of its
  model, every piece once, and nothing else.

  What each step collects is told piece by piece: the parts
  of a field are its column, those of a group its constraint
  or index, and the definition of the table is made of both.
  What the definition records beside its text is what the
  text says.

  Main declarations:
    * `Parts.concat_eq`
    * `ColumnLayout.plan`
    * `TableLayout.definition`
    * `Planner.Writes`
    * `Planner.exists_layout_of_tablePlan`
-/

------------------------------------------------------------
-- Parts In A Row
------------------------------------------------------------

namespace Relmap

namespace Parts

/- The first parts of a list stand before all others. -/
theorem concat_cons
    (first : Parts)
    (rest : List Parts) :
    concat (first :: rest) = first.append (concat rest) := by
  have hFold (left : Parts) :
      rest.foldl append left =
        left.append (rest.foldl append {}) := by
    induction rest generalizing left with
    | nil => simp [append]
    | cons next rest ih =>
        rw [List.foldl_cons, List.foldl_cons,
          ih (left.append next), ih (append {} next)]
        simp [append]
  rw [concat, List.foldl_cons, hFold]
  simp [append, concat]

/- The parts of a list stand place by place in its order. -/
theorem concat_eq (parts : List Parts) :
    concat parts =
      { entries := parts.flatMap Parts.entries
        innerIndexes := parts.flatMap Parts.innerIndexes
        innerReferences := parts.flatMap Parts.innerReferences
        statements := parts.flatMap Parts.statements
        comments := parts.flatMap Parts.comments } := by
  induction parts with
  | nil => rfl
  | cons first rest ih =>
      rw [concat_cons, ih]
      simp only [append, List.flatMap_cons]

theorem concat_append
    (left right : List Parts) :
    concat (left ++ right) =
      (concat left).append (concat right) := by
  simp only [concat_eq, append, List.flatMap_append]

theorem concat_pair (left right : Parts) :
    concat [left, right] = left.append right := by
  simp [concat_eq, append]

@[simp] theorem empty_append (parts : Parts) :
    Parts.append {} parts = parts := by
  simp [append]

end Parts

end Relmap

------------------------------------------------------------
-- Definitions Of Layouts
------------------------------------------------------------

namespace Relmap

/- A reference with a comment. -/
def KeyLayout.reference
    (key : KeyLayout)
    (comment : String) : Reference :=
  { constraint := key.constraint
    column := key.column
    table := key.table
    field := key.field
    onDelete := key.onDelete
    comment := comment }

namespace ColumnLayout

variable (style : Style)
variable (table : String)

/- The reference that the column is planned with. -/
def reference? (column : ColumnLayout) : Option Reference :=
  column.key.map fun key =>
    key.reference
      (Style.ending
        (style.noteWords (column.note? style table)))

/- Its key is that of the column. -/
theorem map_key_reference? (column : ColumnLayout) :
    (column.reference? style table).map Reference.key =
      column.key := by
  rw [reference?, Option.map_map]
  exact Option.map_id'

/- The entry of the column. -/
def entry (column : ColumnLayout) : Entry :=
  .column column.name (column.text style table)
    (if style.keysInside then none
      else column.reference? style table)

/- The entry, and what of the column stands elsewhere. -/
def parts (column : ColumnLayout) : Parts :=
  { entries := [column.entry style table]
    innerReferences :=
      if style.keysInside then
        (column.reference? style table).toList.map fun ref =>
          .reference ref (style.keyText ref.key)
      else []
    comments :=
      (style.noteStatements (column.note? style table)).map
        .comment }

/- What the field of the column is planned as. -/
def plan (column : ColumnLayout) : FieldPlan :=
  { parts := column.parts style table
    references := column.key.toList.map KeyLayout.table
    indexed := if column.indexed then [column.name] else [] }

/- Columns stand place by place in their order. -/
theorem concat_parts (columns : List ColumnLayout) :
    Parts.concat (columns.map (parts style table)) =
      { entries := columns.map (entry style table)
        innerReferences :=
          if style.keysInside then
            (columns.filterMap (reference? style table)).map
              fun ref => .reference ref (style.keyText ref.key)
          else []
        comments :=
          columns.flatMap fun column =>
            (style.noteStatements
                (column.note? style table)).map .comment } := by
  induction columns with
  | nil =>
      cases hInside : style.keysInside <;> simp [Parts.concat]
  | cons column rest ih =>
      rw [List.map_cons, Parts.concat_cons, ih, parts,
        Parts.append, List.filterMap_cons]
      cases hInside : style.keysInside <;>
        cases column.reference? style table <;> simp

end ColumnLayout

namespace TableLayout

variable (style : Style)
variable (config : SchemaConfig)

/- The parts of groups are unique constraints and indexes. -/
def groupParts (layout : TableLayout) : Parts :=
  let indexText := style.indexText config layout.name
  { entries :=
      layout.uniques.map fun columns =>
        .unique columns (style.uniqueText layout.name columns)
    innerIndexes :=
      if style.keysInside then
        layout.indexes.map fun columns =>
          .index columns (indexText columns)
      else []
    statements :=
      if style.keysInside then []
      else
        layout.indexes.map fun columns =>
          .index columns (indexText columns) }

/- The parts of the comment on the table. -/
def noteParts (layout : TableLayout) : Parts :=
  { comments :=
      (style.noteStatements (layout.note? style)).map
        .comment }

/- All parts of the table, those of columns first. -/
def parts (layout : TableLayout) : Parts :=
  (Parts.concat
      (layout.columns.map
        (ColumnLayout.parts style layout.name))).append
    ((layout.groupParts style config).append
      (layout.noteParts style))

/- The definition of the table. -/
def definition (layout : TableLayout) : TableDefinition :=
  (layout.parts style config).assemble layout.name
    (Style.ending (style.noteWords (layout.note? style)))

variable {style : Style}
variable {config : SchemaConfig}

/- It records the foreign keys of its columns. -/
private theorem map_key_references
    (layout : TableLayout)
    (style : Style) :
    (layout.columns.filterMap
        (ColumnLayout.reference? style layout.name)).map
        Reference.key =
      layout.keys := by
  rw [List.map_filterMap, keys]
  exact List.filterMap_congr fun column _ =>
    column.map_key_reference? style layout.name

/- Its entries are those of the body. -/
theorem entries_definition (layout : TableLayout) :
    (layout.definition style config).entries.map Entry.text =
      layout.body style config := by
  have hColumns :
      (layout.columns.map
          (ColumnLayout.entry style layout.name)).map
          Entry.text =
        layout.columns.map
          (ColumnLayout.text style layout.name) :=
    List.map_map
  rw [definition, parts, ColumnLayout.concat_parts, body,
    ← hColumns, ← layout.map_key_references style]
  cases hInside : style.keysInside <;>
    simp [Parts.assemble, Parts.append, groupParts, noteParts,
      Entry.text, Function.comp_def, hInside]

/- Its statements are those that follow the table. -/
theorem statements_definition (layout : TableLayout) :
    (layout.definition style config).statements.map
        Statement.text =
      layout.statements style config := by
  rw [definition, parts, ColumnLayout.concat_parts, statements]
  cases hInside : style.keysInside <;>
    simp [Parts.assemble, Parts.append, groupParts, noteParts,
      Statement.text, Function.comp_def, List.map_flatMap,
      hInside]

/- Its references are the foreign keys that are written. -/
theorem references_definition (layout : TableLayout) :
    (layout.definition style config).references.map
        Reference.key =
      layout.keys := by
  have hNotes (columns : List ColumnLayout) :
      (columns.flatMap fun column =>
          (style.noteStatements
            (column.note? style layout.name)).map
            Statement.comment).filterMap
          Statement.reference? = [] := by
    rw [List.filterMap_flatMap, List.flatMap_eq_nil_iff]
    intro column _
    rw [List.filterMap_map, List.filterMap_eq_nil_iff]
    intro note _
    rfl
  rw [← layout.map_key_references style, definition,
    parts, ColumnLayout.concat_parts,
    TableDefinition.references]
  apply congrArg
  cases hInside : style.keysInside <;>
    simp [Parts.assemble, Parts.append, groupParts, noteParts,
      ColumnLayout.entry, Entry.reference?,
      Statement.reference?, Function.comp_def,
      List.filterMap_map, hNotes, hInside]

/- It is created with the statement of the layout. -/
theorem createSql_definition (layout : TableLayout) :
    (layout.definition style config).createSql style.dialect
        config =
      layout.createText style config := by
  have hTable :
      (layout.definition style config).table =
        layout.name := rfl
  have hComment :
      (layout.definition style config).comment =
        Style.ending
          (style.noteWords (layout.note? style)) := rfl
  unfold TableDefinition.createSql createText
  simp only [entries_definition, hTable,
    hComment, style.quote_dialect, style.tableExtra_dialect]
  apply String.toList_inj.mp
  cases hSafe : config.safe <;>
    simp [SchemaConfig.existsClause, Style.guardWords, hSafe]

/- Its text is the text of the layout. -/
theorem sql_definition (layout : TableLayout) :
    (layout.definition style config).sql style.dialect config =
      layout.sql style config := by
  unfold TableDefinition.sql sql
  rw [createSql_definition, statements_definition]

end TableLayout

end Relmap

------------------------------------------------------------
-- Fields
------------------------------------------------------------

namespace Relmap

namespace Style

variable (style : Style)

/- A comment is inline unless it is a statement. -/
theorem inlineText_noteClause (note : Option String) :
    Clause.inlineText (note.map style.noteClause) =
      ending (style.noteWords note) := by
  unfold noteWords
  cases note with
  | none => cases style.commentsBehind <;> rfl
  | some text =>
      cases hBehind : style.commentsBehind <;>
        simp [noteClause, Clause.inlineText, hBehind]

theorem ofComment_noteClause (note : Option String) :
    Parts.ofComment (note.map style.noteClause) =
      { comments :=
          (style.noteStatements note).map .comment } := by
  unfold noteStatements
  cases note with
  | none => cases style.commentsBehind <;> rfl
  | some text =>
      cases hBehind : style.commentsBehind <;>
        simp [noteClause, Parts.ofComment, hBehind]

/- Comments on columns are clauses with their notes. -/
theorem map_columnComment
    (table column : String)
    (description : Option String) :
    description.map
        (style.dialect.columnComment table column) =
      (description.map (style.columnNote table column)).map
        style.noteClause := by
  rw [Option.map_map]
  exact Option.map_congr fun text _ =>
    style.columnComment_dialect table column text

theorem map_tableComment
    (table : String)
    (description : Option String) :
    description.map (style.dialect.tableComment table) =
      (description.map (style.tableNote table)).map
        style.noteClause := by
  rw [Option.map_map]
  exact Option.map_congr fun text _ =>
    style.tableComment_dialect table text

/- A reference stands in the column, or in the body. -/
theorem ofReference_dialect
    (definition : String)
    (ref : Reference) :
    Parts.ofReference definition ref
        (style.dialect.reference ref) =
      if style.keysInside then
        { entries :=
            [.column ref.column (definition ++ ref.comment)
              none]
          innerReferences :=
            [.reference ref (style.keyText ref.key)] }
      else
        { entries :=
            [.column ref.column
              (definition ++
                (" " ++ style.keyText ref.key ++ ref.comment))
              (some ref)] } := by
  rw [reference_dialect]
  cases style.keysInside <;> rfl

end Style

namespace ColumnLayout

variable {style : Style}
variable {table : String}
variable {column : ColumnLayout}

/- A column without a foreign key is one entry. -/
theorem plan_of_none
    (hNone : column.key = none) :
    column.plan style table =
      { parts :=
          { entries :=
              [.column column.name
                (Style.sentence
                  (style.identifier column.name ::
                    column.words ++
                    style.noteWords (column.note? style table)))
                none]
            comments :=
              (style.noteStatements
                (column.note? style table)).map .comment }
        references := []
        indexed :=
          if column.indexed then [column.name] else [] } := by
  simp [plan, parts, entry, text, reference?, hNone]

/- Any other column has its reference, behind a comment. -/
theorem parts_of_reference
    {ref : Reference}
    (hRef : column.reference? style table = some ref)
    (hColumn : ref.column = column.name) :
    column.parts style table =
      Parts.append
        { comments :=
            (style.noteStatements
              (column.note? style table)).map .comment }
        (Parts.ofReference
          (Style.sentence
            (style.identifier column.name :: column.words))
          ref (style.dialect.reference ref)) := by
  rcases Option.map_eq_some_iff.mp hRef with ⟨key, hKey, rfl⟩
  rw [style.ofReference_dialect, hColumn]
  cases hInside : style.keysInside <;>
    simp [parts, entry, text, hKey, hRef, hInside,
      Parts.append, KeyLayout.reference, Reference.key,
      String.append_assoc]

end ColumnLayout

namespace Planner

variable {planner : Planner}
variable {style : Style}
variable {model : Model}
variable {field : Field}

/- A column begins with its name and its words. -/
theorem columnDefinition_eq_ok_iff
    (hDialect : planner.dialect = style.dialect)
    {definition : String} :
    planner.columnDefinition field = .ok definition ↔
      ∃ columnType,
        style.dialect.columnType field.type = .ok columnType ∧
          definition =
            Style.sentence
              (style.identifier field.column ::
                Style.columnWords field columnType) := by
  have hText (columnType : String) :
      style.identifier field.column ++ " " ++ columnType ++
          (if field.nullable then "" else " NOT NULL") ++
          (if field.unique then " UNIQUE" else "") ++
          (if field.primaryKey then " PRIMARY KEY" else "") =
        Style.sentence
          (style.identifier field.column ::
            Style.columnWords field columnType) := by
    unfold Style.columnWords
    apply String.toList_inj.mp
    cases field.nullable <;> cases field.unique <;>
      cases field.primaryKey <;> simp
  unfold columnDefinition
  simp only [hDialect, style.quote_dialect, hText,
    Except.bind_eq_ok_iff, pure, Except.pure, Except.ok.injEq]
  simp only [eq_comm]

/- A generated key is its name and its words. -/
theorem generatedKey?_eq
    (hDialect : planner.dialect = style.dialect)
    (note : Option String) :
    planner.generatedKey? field (backedKey? model field)
        (Style.ending (style.noteWords note)) =
      (style.generatedWords? model field).map fun words =>
        Style.sentence
          (style.identifier field.column :: words ++
            style.noteWords note) := by
  unfold generatedKey? Style.generatedWords?
  rw [hDialect]
  split
  · exact style.keyColumn?_dialect field.column field.type note
  · rfl

/- A reference is to the key of its target. -/
theorem referenceTo_eq_ok
    {table comment : String}
    {backed : Relation × ForeignKey}
    {ref : Reference}
    (hReference :
      planner.referenceTo table field.column
        backed.2.onDelete comment backed.1.target =
          .ok ref) :
    planner.IsKeyOf table (field, backed) ref.key ∧
      ref = ref.key.reference comment := by
  simp only [referenceTo, Except.bind_eq_ok_iff,
    Catalog.require_eq_ok_iff] at hReference
  rcases hReference with ⟨model, hModel, key, hKey, hRef⟩
  cases hRef
  exact ⟨⟨rfl, rfl, ⟨model, hModel, rfl, hKey⟩, rfl⟩, rfl⟩

/- A field is planned as its column. -/
theorem exists_column_of_fieldPlan
    (hDialect : planner.dialect = style.dialect)
    {plan : FieldPlan}
    (hPlan : planner.fieldPlan model field = .ok plan) :
    ∃ column,
      planner.IsColumnOf style model field column ∧
        plan = column.plan style model.table := by
  unfold fieldPlan at hPlan
  dsimp only at hPlan
  rw [hDialect, style.map_columnComment,
    style.inlineText_noteClause, style.ofComment_noteClause,
    generatedKey?_eq hDialect] at hPlan
  cases hWords : style.generatedWords? model field with
  | some words =>
      rw [hWords] at hPlan
      cases hPlan
      have hGenerated :=
        Style.generatedWords?_eq_some_iff.mp hWords
      refine ⟨_, .generated hGenerated, ?_⟩
      rw [ColumnLayout.plan_of_none rfl]
      simp [ColumnLayout.note?, Parts.append]
  | none =>
      have hNotGenerated :=
        Style.generatedWords?_eq_none_iff.mp hWords
      rw [hWords] at hPlan
      simp only [Option.map_none, writtenColumn,
        Except.bind_eq_ok_iff,
        columnDefinition_eq_ok_iff hDialect] at hPlan
      rcases hPlan with
        ⟨written, ⟨_, ⟨columnType, hType, rfl⟩, hWritten⟩,
          hPlan⟩
      cases hPlan
      cases hBacked : backedKey? model field with
      | none =>
          rw [hBacked] at hWritten
          cases hWritten
          have hNotBacked := backedKey?_eq_none_iff.mp hBacked
          refine ⟨_, .plain hNotGenerated hNotBacked hType, ?_⟩
          rw [ColumnLayout.plan_of_none rfl]
          simp [ColumnLayout.note?, Parts.append,
            String.append_assoc]
      | some backed =>
          rw [hBacked] at hWritten
          rcases Except.bind_eq_ok_iff.mp hWritten with
            ⟨ref, hReference, hDone⟩
          cases hDone
          rcases referenceTo_eq_ok hReference with ⟨hKey, hRef⟩
          have hColumn :
              planner.IsColumnOf style model field _ :=
            .referencing hNotGenerated
              (backedKey?_eq_some_iff.mp hBacked) hType hKey
          have hRecorded :
              ColumnLayout.reference? style model.table
                  { name := field.column
                    words := Style.columnWords field columnType
                    key := some ref.key
                    description := field.description
                    indexed := field.index } =
                some ref :=
            congrArg some hRef.symm
          refine ⟨_, hColumn, ?_⟩
          rw [hDialect, ColumnLayout.plan,
            ColumnLayout.parts_of_reference hRecorded
              hKey.column]
          rfl

/- Fields are planned as their columns, in order. -/
theorem exists_columns_of_fieldPlans
    (hDialect : planner.dialect = style.dialect)
    {fields : List Field}
    {plans : List FieldPlan}
    (hPlans :
      List.Forall₂
        (fun field plan =>
          planner.fieldPlan model field = .ok plan)
        fields plans) :
    ∃ columns,
      List.Forall₂ (planner.IsColumnOf style model) fields
          columns ∧
        plans =
          columns.map (ColumnLayout.plan style model.table) := by
  rcases (hPlans.imp fun _ _ hPlan =>
      exists_column_of_fieldPlan hDialect
        hPlan).exists_between with
    ⟨columns, hColumns, hPlanned⟩
  refine ⟨columns, hColumns, ?_⟩
  rw [eq_comm, ← List.forall₂_eq_eq_eq,
    List.forall₂_map_left_iff]
  exact hPlanned.imp fun _ _ hPlan => hPlan.symm

end Planner

end Relmap

------------------------------------------------------------
-- Tables
------------------------------------------------------------

namespace Relmap

namespace Planner

variable {planner : Planner}
variable {style : Style}
variable {model : Model}

/- A group of fields succeeds with the columns of it. -/
theorem groupColumns_eq_ok_iff
    {option : String}
    {group columns : List String} :
    groupColumns model option group = .ok columns ↔
      IsGroupOf model group columns := by
  rw [groupColumns, List.mapM_eq_ok_iff, IsGroupOf]
  apply List.Forall₂.congr_of_mem
  intro name _ column
  cases model.columnFor? name <;> simp

/- Unique constraints and indexes are those of the groups. -/
theorem concat_groups
    (hDialect : planner.dialect = style.dialect)
    (layout : TableLayout) :
    (Parts.concat
        (layout.uniques.map
          (planner.uniqueParts layout.name))).append
      (Parts.concat
        (layout.indexes.map
          (planner.indexParts layout.name))) =
      layout.groupParts style planner.config := by
  have hUnique :
      planner.uniqueParts layout.name = fun columns =>
        { entries :=
            [.unique columns
              (style.uniqueText layout.name columns)] } := by
    funext columns
    rw [uniqueParts, hDialect, style.uniqueConstraint_dialect]
  have hIndex :
      planner.indexParts layout.name = fun columns =>
        if style.keysInside then
          { innerIndexes :=
              [.index columns
                (style.indexText planner.config layout.name
                  columns)] }
        else
          { statements :=
              [.index columns
                (style.indexText planner.config layout.name
                  columns)] } := by
    funext columns
    rw [indexParts, hDialect, style.index_dialect]
    cases style.keysInside <;> rfl
  have hNone (items : List (List String)) (α : Type) :
      items.flatMap (fun _ => ([] : List α)) = [] :=
    List.flatMap_eq_nil_iff.mpr fun _ _ => rfl
  rw [hUnique, hIndex, Parts.concat_eq, Parts.concat_eq,
    TableLayout.groupParts]
  cases hInside : style.keysInside <;>
    simp [Parts.append, List.flatMap_map, hNone,
      ← List.map_eq_flatMap]

/- Columns with an index of their own, in order. -/
theorem indexed_of_columns
    (table : String)
    (columns : List ColumnLayout) :
    (columns.map (ColumnLayout.plan style table)).flatMap
        FieldPlan.indexed =
      (columns.filter ColumnLayout.indexed).map
        ColumnLayout.name := by
  induction columns with
  | nil => rfl
  | cons column rest ih =>
      rw [List.map_cons, List.flatMap_cons, ih,
        List.filter_cons, ColumnLayout.plan]
      cases column.indexed <;> rfl

/-
  A table is defined as a layout: its body, its text and the
  statements that follow it are those of the layout, and what
  is recorded beside the text are the foreign keys of it.
-/
structure Writes
    (planner : Planner)
    (style : Style)
    (layout : TableLayout)
    (definition : TableDefinition) : Prop where
  table : definition.table = layout.name
  entries :
    definition.entries.map Entry.text =
      layout.body style planner.config
  statements :
    definition.statements.map Statement.text =
      layout.statements style planner.config
  sql :
    definition.sql planner.dialect planner.config =
      layout.sql style planner.config
  references :
    definition.references.map Reference.key = layout.keys

theorem writes_definition
    (hDialect : planner.dialect = style.dialect)
    (layout : TableLayout) :
    planner.Writes style layout
      (layout.definition style planner.config) :=
  { table := rfl
    entries := layout.entries_definition
    statements := layout.statements_definition
    sql := hDialect ▸ layout.sql_definition
    references := layout.references_definition }

/- A column of a link table is planned as its layout. -/
theorem exists_column_of_linkColumn
    (hDialect : planner.dialect = style.dialect)
    {through column : String}
    {target : Model}
    {key : Field}
    (hKey : target.primaryKey = .ok key)
    {parts : Parts}
    (hParts :
      planner.linkColumn through column target key =
        .ok parts) :
    ∃ layout,
      IsLinkColumnOf style through column target layout ∧
        parts = layout.parts style through := by
  simp only [linkColumn, Except.bind_eq_ok_iff] at hParts
  rcases hParts with ⟨columnType, hType, hParts⟩
  cases hParts
  rw [hDialect] at hType
  refine ⟨_, ⟨key, columnType, hKey, hType, rfl⟩, ?_⟩
  have hText :
      style.identifier column ++ " " ++ columnType ++
          " NOT NULL" =
        Style.sentence
          [style.identifier column, columnType, "NOT NULL"] := by
    apply String.toList_inj.mp
    simp
  rw [ColumnLayout.parts_of_reference rfl rfl, hDialect,
    style.quote_dialect, hText]
  simp [ColumnLayout.note?, KeyLayout.reference]

/- A link table has no constraints and no indexes. -/
theorem IsLinkLayoutOf.groupParts_eq
    {owned : Relation × ManyToMany}
    {layout : TableLayout}
    (hLayout :
      planner.IsLinkLayoutOf style model owned layout)
    (config : SchemaConfig) :
    layout.groupParts style config = {} := by
  rcases hLayout.columns with
    ⟨_, near, far, _, ⟨_, _, _, _, hNear⟩, ⟨_, _, _, _, hFar⟩,
      hColumns⟩
  have hIndexes : layout.indexes = [] := by
    rw [TableLayout.indexes, hColumns, hLayout.groups, hNear,
      hFar]
    rfl
  rw [TableLayout.groupParts, hIndexes, hLayout.uniques]
  cases style.keysInside <;> rfl

/- A link table is planned as its layout. -/
theorem exists_layout_of_linkTable
    (hDialect : planner.dialect = style.dialect)
    {owned : Relation × ManyToMany}
    {definition : TableDefinition}
    (hTable :
      planner.linkTable model owned.1 owned.2 =
        .ok definition) :
    ∃ layout,
      planner.IsLinkLayoutOf style model owned layout ∧
        definition =
          layout.definition style planner.config := by
  simp only [linkTable, Except.bind_eq_ok_iff,
    Catalog.require_eq_ok_iff] at hTable
  rcases hTable with
    ⟨target, hTarget, ownKey, hOwnKey, targetKey, hTargetKey,
      _, hNearParts, _, hFarParts, hDefinition⟩
  rcases exists_column_of_linkColumn hDialect hOwnKey
      hNearParts with
    ⟨near, hNear, rfl⟩
  rcases exists_column_of_linkColumn hDialect hTargetKey
      hFarParts with
    ⟨far, hFar, rfl⟩
  let layout : TableLayout :=
    { name := owned.2.through
      columns := [near, far]
      description := owned.2.description }
  have hLayout :
      planner.IsLinkLayoutOf style model owned layout :=
    { name := rfl
      columns := ⟨target, near, far, hTarget, hNear, hFar, rfl⟩
      uniques := rfl
      groups := rfl
      description := rfl }
  cases hDefinition
  refine ⟨layout, hLayout, ?_⟩
  rw [hDialect, style.map_tableComment,
    style.inlineText_noteClause, style.ofComment_noteClause,
    TableLayout.definition, TableLayout.parts,
    hLayout.groupParts_eq]
  simp [Parts.concat_eq, Parts.append, TableLayout.noteParts,
    TableLayout.note?, layout]

/-
  A plan is written as the layout of a model: the table, the
  link tables, and a record of the tables that the foreign
  keys of the table are to.
-/
structure WritesPlan
    (planner : Planner)
    (style : Style)
    (layout : ModelLayout)
    (plan : TablePlan) : Prop where
  table : plan.table = layout.table.name
  definition : planner.Writes style layout.table plan.definition
  recorded :
    ∀ table,
      table ∈ plan.references ↔
        ∃ key ∈ layout.table.keys, key.table = table
  links :
    List.Forall₂ (planner.Writes style) layout.links
      plan.links

/- Columns record the tables that their foreign keys are to. -/
theorem mem_references_of_columns
    {table target : String}
    {columns : List ColumnLayout} :
    target ∈
        (columns.map (ColumnLayout.plan style table)).flatMap
          FieldPlan.references ↔
      ∃ key ∈ columns.filterMap ColumnLayout.key,
        key.table = target := by
  simp only [List.mem_flatMap, List.mem_map,
    List.mem_filterMap, ColumnLayout.plan]
  constructor
  · rintro ⟨_, ⟨column, hColumn, rfl⟩, hTarget⟩
    rcases List.mem_map.mp hTarget with ⟨key, hKey, hTable⟩
    exact ⟨key, ⟨column, hColumn, Option.mem_toList.mp hKey⟩,
      hTable⟩
  · rintro ⟨key, ⟨column, hColumn, hKey⟩, hTable⟩
    refine ⟨_, ⟨column, hColumn, rfl⟩, ?_⟩
    exact List.mem_map.mpr
      ⟨key, Option.mem_toList.mpr hKey, hTable⟩

/- What is planned for the links of a model is written. -/
theorem exists_layouts_of_linkTables
    (hDialect : planner.dialect = style.dialect)
    {definitions : List TableDefinition}
    (hLinks : planner.linkTables model = .ok definitions) :
    ∃ links,
      List.Forall₂ (planner.IsLinkLayoutOf style model)
          (ownedLinks model) links ∧
        List.Forall₂ (planner.Writes style) links
          definitions := by
  unfold linkTables at hLinks
  rw [filterMap_ownedLink?, List.mapM_eq_ok_iff] at hLinks
  apply List.Forall₂.exists_between
  apply hLinks.imp
  intro owned definition hLink
  rcases exists_layout_of_linkTable hDialect hLink with
    ⟨layout, hLayout, rfl⟩
  exact ⟨layout, hLayout, writes_definition hDialect layout⟩

/- What is planned for a model is written as its layout. -/
theorem exists_modelLayout_of_tablePlan
    (hDialect : planner.dialect = style.dialect)
    {plan : TablePlan}
    (hPlan : planner.tablePlan model = .ok plan) :
    ∃ layout,
      planner.IsModelLayoutOf style model layout ∧
        planner.WritesPlan style layout plan := by
  simp only [tablePlan, groupParts, Except.bind_eq_ok_iff,
    List.mapM_eq_ok_iff, groupColumns_eq_ok_iff] at hPlan
  rcases hPlan with
    ⟨fields, hFields, parts,
      ⟨uniques, hUniques, groups, hGroups, hParts⟩,
      definitions, hLinks, hPlan⟩
  cases hParts
  cases hPlan
  rcases exists_columns_of_fieldPlans hDialect hFields with
    ⟨columns, hColumns, rfl⟩
  rcases exists_layouts_of_linkTables hDialect hLinks with
    ⟨links, hAreLinks, hWritten⟩
  -- The plans of the fields say which columns have an index.
  let layout : TableLayout :=
    { name := model.table
      columns := columns
      uniques := uniques
      groups := groups
      description := model.description }
  have hLayout : planner.IsLayoutOf style model layout :=
    { name := rfl
      columns := hColumns
      uniques := hUniques
      groups := hGroups
      description := rfl }
  refine ⟨⟨layout, links⟩, ⟨hLayout, hAreLinks⟩, ?_⟩
  constructor
  · rfl
  · dsimp only
    rw [hDialect, style.map_tableComment,
      style.inlineText_noteClause, style.ofComment_noteClause,
      indexed_of_columns, List.map_map, List.map_map,
      Parts.concat_append, Parts.concat_pair]
    have hWrites := writes_definition hDialect layout
    rw [TableLayout.definition, TableLayout.parts,
      ← concat_groups hDialect layout] at hWrites
    exact hWrites
  · intro table
    rw [Text.mem_sortUnique]
    exact mem_references_of_columns
  · exact hWritten

/-
  A planned table in a built-in dialect is a layout of its
  model. The body has the columns of the fields in order,
  each with its comment at its end where comments are not
  statements, then the unique constraints. Indexes and
  foreign keys follow there if they stand inside. If not then
  a foreign key is part of its column and the indexes follow
  the table. Comments that are statements come last, that of
  the table after those of its columns.
-/
theorem exists_layout_of_tablePlan
    (hDialect : planner.dialect = style.dialect)
    {plan : TablePlan}
    (hPlan : planner.tablePlan model = .ok plan) :
    ∃ layout,
      planner.IsLayoutOf style model layout ∧
        plan.definition.entries.map Entry.text =
          layout.body style planner.config ∧
        plan.definition.statements.map Statement.text =
          layout.statements style planner.config ∧
        plan.definition.sql planner.dialect planner.config =
          layout.sql style planner.config := by
  rcases exists_modelLayout_of_tablePlan hDialect hPlan with
    ⟨layout, hLayout, hWrites⟩
  exact ⟨layout.table, hLayout.isTable,
    hWrites.definition.entries, hWrites.definition.statements,
    hWrites.definition.sql⟩

/- What a reader has out, with a piece of each kind. -/
private def loan : Model :=
  { name := "Loan"
    table := "loan"
    description := some "What a reader has out."
    fields :=
      [{ Field.keyOfType "id" (.named FieldType.intName) with
          description := some "The number of the loan." },
        { Field.ofType "reader_id"
            (.named FieldType.intName) with
          index := true
          description := some "Who has it."
          reference := some "reader" },
        { Field.ofType "due" (.named FieldType.dateName) with
          description := some "When it's back." }]
    relations := [.toOne "reader" "Reader"]
    uniqueTogether := [["id", "reader"]]
    indexes := [["due", "reader"]] }

/- Readers and their loans in a dialect. -/
private def loans (dialect : Dialect) : Planner :=
  { catalog :=
      { models :=
          [{ name := "Reader"
             table := "reader"
             fields :=
               [.keyOfType "id" (.named FieldType.intName)] },
            loan] }
    dialect := dialect }

/-
  Loans have three columns in front of their constraint, and
  four comments behind their two indexes.
-/
theorem exists_layout_of_tablePlan_loan :
    ∃ plan layout,
      (loans .postgres).tablePlan loan = .ok plan ∧
        (loans .postgres).IsLayoutOf .postgres loan layout ∧
        (layout.body .postgres {}).take 3 =
          ["\"id\" SERIAL NOT NULL PRIMARY KEY",
            "\"reader_id\" INT NOT NULL REFERENCES " ++
              "\"reader\" (\"id\") ON DELETE CASCADE",
            "\"due\" DATE NOT NULL"] ∧
        (layout.statements .postgres {}).length = 6 ∧
        (layout.statements .postgres {}).drop 4 =
          ["COMMENT ON COLUMN \"loan\".\"due\" " ++
              "IS 'When it''s back.';",
            "COMMENT ON TABLE \"loan\" " ++
              "IS 'What a reader has out.';"] := by
  have hDialect :
      (loans .postgres).dialect = Style.postgres.dialect := rfl
  have hAny :
      ((loans .postgres).tablePlan loan).toOption.any
        (fun plan =>
          (plan.definition.entries.map Entry.text).take 3 =
              ["\"id\" SERIAL NOT NULL PRIMARY KEY",
                "\"reader_id\" INT NOT NULL REFERENCES " ++
                  "\"reader\" (\"id\") ON DELETE CASCADE",
                "\"due\" DATE NOT NULL"] ∧
            (plan.definition.statements.map
                Statement.text).length = 6 ∧
            (plan.definition.statements.map
                Statement.text).drop 4 =
              ["COMMENT ON COLUMN \"loan\".\"due\" " ++
                  "IS 'When it''s back.';",
                "COMMENT ON TABLE \"loan\" " ++
                  "IS 'What a reader has out.';"]) = true := by
    decide +kernel
  rcases Except.exists_of_any hAny with ⟨plan, hPlan, hTest⟩
  rcases exists_layout_of_tablePlan hDialect hPlan with
    ⟨layout, hLayout, hBody, hStatements, _⟩
  have hTest := of_decide_eq_true hTest
  rw [hBody, hStatements] at hTest
  exact ⟨plan, layout, hPlan, hLayout, hTest⟩

end Planner

end Relmap
