import Mathlib.Data.List.Forall2
import Relmap.Proofs.Catalog.Basic
import Relmap.Proofs.Outcome
import Relmap.Proofs.Schema.Spelling

/-
  Layouts: the trees that the tables of a model are.

  The table of a model has a column for each field, and the
  groups of columns that are unique or have an index. A link
  table has a column for each of the models that it links.
  Foreign keys are those that the relations ask for, apart
  from columns that the database generates.

  Main declarations:
    * `Planner.BacksKey`
    * `Style.IsGenerated`
    * `Planner.IsKeyOf`
    * `Planner.IsColumnOf`
    * `Planner.IsLayoutOf`
    * `Planner.IsLinkLayoutOf`
    * `Planner.IsLayoutOf.keys`
-/

------------------------------------------------------------
-- Keys That Fields Back
------------------------------------------------------------

namespace Relmap

namespace Planner

/-
  A field backs a foreign key of its model: that of the
  relation which it knows by name.
-/
def BacksKey
    (model : Model)
    (field : Field)
    (backed : Relation × ForeignKey) : Prop :=
  ∃ name,
    field.reference = some name ∧
      model.relation? name = some backed.1 ∧
      backed.1.kind = .foreignKey backed.2

variable {model : Model}
variable {field : Field}

/- Planning finds the foreign key that a field backs. -/
theorem backedKey?_eq_some_iff
    {backed : Relation × ForeignKey} :
    backedKey? model field = some backed ↔
      BacksKey model field backed := by
  have hKind (relation : Relation) :
      relation.foreignKey? = some backed.2 ↔
        relation.kind = .foreignKey backed.2 := by
    unfold Relation.foreignKey?
    cases relation.kind <;> simp
  simp only [backedKey?, Option.bind_eq_bind,
    Option.bind_eq_some_iff, Option.pure_def, Option.some.injEq]
  constructor
  · rintro ⟨name, hName, relation, hRelation, key, hKey, rfl⟩
    exact ⟨name, hName, hRelation, (hKind relation).mp hKey⟩
  · rintro ⟨name, hName, hRelation, hKey⟩
    exact ⟨name, hName, backed.1, hRelation, backed.2,
      (hKind backed.1).mpr hKey, rfl⟩

/- A field backs at most one. -/
theorem BacksKey.unique
    {backed other : Relation × ForeignKey}
    (hBacked : BacksKey model field backed)
    (hOther : BacksKey model field other) :
    backed = other := by
  rw [← backedKey?_eq_some_iff] at hBacked hOther
  exact Option.some.inj (hBacked.symm.trans hOther)

/- Planning finds none exactly if the field backs none. -/
theorem backedKey?_eq_none_iff :
    backedKey? model field = none ↔
      ∀ backed, ¬ BacksKey model field backed := by
  rw [Option.eq_none_iff_forall_ne_some]
  exact forall_congr' fun _ =>
    not_congr backedKey?_eq_some_iff

end Planner

end Relmap

------------------------------------------------------------
-- Words Of Fields
------------------------------------------------------------

namespace Relmap

namespace Style

/-
  The column of a field is generated: the field is a primary
  key of a type for which the style has words, and backs no
  foreign key that is one to one.
-/
structure IsGenerated
    (style : Style)
    (model : Model)
    (field : Field)
    (words : List String) : Prop where
  primaryKey : field.primaryKey = true
  notOneToOne :
    ∀ backed, Planner.BacksKey model field backed →
      backed.2.oneToOne = false
  keyWords : style.keyWords? field.type = some words

/- The words of a generated column, as planning finds them. -/
def generatedWords?
    (style : Style)
    (model : Model)
    (field : Field) : Option (List String) :=
  if field.primaryKey &&
      !((Planner.backedKey? model field).any fun backed =>
        backed.2.oneToOne) then
    style.keyWords? field.type
  else none

/- The words of any other column, after its type. -/
def columnWords
    (field : Field)
    (columnType : String) : List String :=
  [columnType] ++
    (if field.nullable then [] else ["NOT NULL"]) ++
    (if field.unique then ["UNIQUE"] else []) ++
    (if field.primaryKey then ["PRIMARY KEY"] else [])

/-
  The foreign key that the column of a field is written
  with: the one that it backs, unless it is generated.
-/
def writtenKey?
    (style : Style)
    (model : Model)
    (field : Field) : Option (Relation × ForeignKey) :=
  match style.generatedWords? model field with
  | some _ => none
  | none => Planner.backedKey? model field

/- The foreign keys of some fields that are written. -/
def writtenKeys
    (style : Style)
    (model : Model)
    (fields : List Field) :
    List (Field × Relation × ForeignKey) :=
  fields.flatMap fun field =>
    (style.writtenKey? model field).toList.map
      fun backed => (field, backed)

variable {style : Style}
variable {model : Model}
variable {field : Field}

/- Planning finds the words of generated columns. -/
theorem generatedWords?_eq_some_iff
    {words : List String} :
    style.generatedWords? model field = some words ↔
      style.IsGenerated model field words := by
  have hNotOneToOne :
      (Planner.backedKey? model field).any
          (fun backed => backed.2.oneToOne) = false ↔
        ∀ backed, Planner.BacksKey model field backed →
          backed.2.oneToOne = false := by
    simp only [Option.any_eq_false,
      Planner.backedKey?_eq_some_iff]
  unfold generatedWords?
  rw [Option.ite_none_right_eq_some, Bool.and_eq_true,
    Bool.not_eq_true', hNotOneToOne]
  constructor
  · rintro ⟨⟨hPrimary, hNone⟩, hWords⟩
    exact ⟨hPrimary, hNone, hWords⟩
  · rintro ⟨hPrimary, hNone, hWords⟩
    exact ⟨⟨hPrimary, hNone⟩, hWords⟩

/- It finds none exactly if the column is not generated. -/
theorem generatedWords?_eq_none_iff :
    style.generatedWords? model field = none ↔
      ∀ words, ¬ style.IsGenerated model field words := by
  rw [Option.eq_none_iff_forall_ne_some]
  exact forall_congr' fun _ =>
    not_congr generatedWords?_eq_some_iff

/- A generated column is written with no foreign key. -/
theorem IsGenerated.writtenKey?_eq_none
    {words : List String}
    (hWords : style.IsGenerated model field words) :
    style.writtenKey? model field = none := by
  rw [writtenKey?, generatedWords?_eq_some_iff.mpr hWords]

/- Any other column is written with the one it backs. -/
theorem writtenKey?_of_backsKey
    {backed : Relation × ForeignKey}
    (hWords : ∀ words, ¬ style.IsGenerated model field words)
    (hBacked : Planner.BacksKey model field backed) :
    style.writtenKey? model field = some backed := by
  rw [writtenKey?, generatedWords?_eq_none_iff.mpr hWords]
  exact Planner.backedKey?_eq_some_iff.mpr hBacked

/- A key that is written is one that the field backs. -/
theorem backsKey_of_writtenKey?
    {backed : Relation × ForeignKey}
    (hWritten : style.writtenKey? model field = some backed) :
    Planner.BacksKey model field backed := by
  unfold writtenKey? at hWritten
  split at hWritten
  · cases hWritten
  · exact Planner.backedKey?_eq_some_iff.mp hWritten

end Style

end Relmap

------------------------------------------------------------
-- Columns
------------------------------------------------------------

namespace Relmap

namespace Planner

/-
  The foreign key of a field in a table is to the key of the
  target of its relation.
-/
structure IsKeyOf
    (planner : Planner)
    (table : String)
    (written : Field × Relation × ForeignKey)
    (key : KeyLayout) : Prop where
  column : key.column = written.1.column
  onDelete : key.onDelete = written.2.2.onDelete
  target :
    ∃ target,
      planner.catalog.model? written.2.1.target =
          some target ∧
        key.table = target.table ∧
        target.keyColumn = .ok key.field
  constraint :
    key.constraint =
      Naming.keyName table key.column key.table key.field

/-
  The column of a field. A generated key has its own words,
  and neither a foreign key nor an index. Any other column
  has its type and what the field asks for, and the foreign
  key that it backs, if it backs one.
-/
inductive IsColumnOf
    (planner : Planner)
    (style : Style)
    (model : Model)
    (field : Field) : ColumnLayout → Prop where
  | generated
      {words : List String}
      (hWords : style.IsGenerated model field words) :
      IsColumnOf planner style model field
        { name := field.column
          words := words
          description := field.description }
  | plain
      {columnType : String}
      (hWords :
        ∀ words, ¬ style.IsGenerated model field words)
      (hBacked : ∀ backed, ¬ BacksKey model field backed)
      (hType :
        style.dialect.columnType field.type =
          .ok columnType) :
      IsColumnOf planner style model field
        { name := field.column
          words := Style.columnWords field columnType
          description := field.description
          indexed := field.index }
  | referencing
      {columnType : String}
      {backed : Relation × ForeignKey}
      {key : KeyLayout}
      (hWords :
        ∀ words, ¬ style.IsGenerated model field words)
      (hBacked : BacksKey model field backed)
      (hType :
        style.dialect.columnType field.type =
          .ok columnType)
      (hKey :
        planner.IsKeyOf model.table (field, backed) key) :
      IsColumnOf planner style model field
        { name := field.column
          words := Style.columnWords field columnType
          key := some key
          description := field.description
          indexed := field.index }

variable {planner : Planner}
variable {style : Style}
variable {model : Model}
variable {field : Field}
variable {column : ColumnLayout}

theorem IsColumnOf.name
    (hColumn : planner.IsColumnOf style model field column) :
    column.name = field.column := by
  cases hColumn <;> rfl

/- A column has the foreign key that its field is to have. -/
theorem IsColumnOf.key
    (hColumn : planner.IsColumnOf style model field column) :
    List.Forall₂ (planner.IsKeyOf model.table)
      ((style.writtenKey? model field).toList.map
        fun backed => (field, backed))
      column.key.toList := by
  cases hColumn with
  | generated hWords =>
      rw [hWords.writtenKey?_eq_none]
      exact .nil
  | plain _ hBacked _ =>
      cases hWritten : style.writtenKey? model field with
      | none => exact .nil
      | some backed =>
          exact absurd (Style.backsKey_of_writtenKey? hWritten)
            (hBacked backed)
  | referencing hWords hBacked _ hKey =>
      rw [Style.writtenKey?_of_backsKey hWords hBacked]
      exact .cons hKey .nil

end Planner

end Relmap

------------------------------------------------------------
-- Tables
------------------------------------------------------------

namespace Relmap

namespace Planner

/- The columns of a group are those of its members. -/
def IsGroupOf
    (model : Model)
    (group columns : List String) : Prop :=
  List.Forall₂
    (fun name column => model.columnFor? name = some column)
    group columns

/-
  The table of a model has one column for each field, and
  one group of columns for each group of fields.
-/
structure IsLayoutOf
    (planner : Planner)
    (style : Style)
    (model : Model)
    (layout : TableLayout) : Prop where
  name : layout.name = model.table
  columns :
    List.Forall₂ (planner.IsColumnOf style model) model.fields
      layout.columns
  uniques :
    List.Forall₂ (IsGroupOf model) model.uniqueTogether
      layout.uniques
  groups :
    List.Forall₂ (IsGroupOf model) model.indexes
      layout.groups
  description : layout.description = model.description

variable {planner : Planner}
variable {style : Style}
variable {model : Model}
variable {layout : TableLayout}

/- Its foreign keys are those that are to be written. -/
theorem IsLayoutOf.keys
    (hLayout : planner.IsLayoutOf style model layout) :
    List.Forall₂ (planner.IsKeyOf model.table)
      (style.writtenKeys model model.fields) layout.keys := by
  rw [TableLayout.keys, List.filterMap_eq_flatMap_toList]
  exact List.rel_flatMap hLayout.columns fun _ _ hColumn =>
    hColumn.key

/- A foreign key is to the table of some model. -/
theorem IsLayoutOf.exists_model
    (hLayout : planner.IsLayoutOf style model layout)
    {key : KeyLayout}
    (hKey : key ∈ layout.keys) :
    ∃ target ∈ planner.catalog.models,
      key.table = target.table := by
  rcases hLayout.keys.exists_of_mem_right hKey with
    ⟨_, _, hWritten⟩
  rcases hWritten.target with ⟨target, hTarget, hSame, _⟩
  exact ⟨target, (Catalog.model?_eq_some hTarget).1, hSame⟩

end Planner

end Relmap

------------------------------------------------------------
-- Link Tables
------------------------------------------------------------

namespace Relmap

namespace Planner

/- The links that a model creates, in order. -/
def ownedLinks (model : Model) : List (Relation × ManyToMany) :=
  (model.relations.filterMap fun relation =>
    relation.manyToMany?.map fun link =>
      (relation, link)).filter
    fun owned => owned.2.ownsThrough

/- They are those of which link tables are planned. -/
theorem filterMap_ownedLink? (model : Model) :
    (model.relations.filterMap fun relation =>
        (ownedLink? relation).map fun link =>
          (relation, link)) =
      ownedLinks model := by
  rw [ownedLinks, List.filter_filterMap]
  apply List.filterMap_congr
  intro relation _
  unfold ownedLink?
  cases relation.manyToMany? with
  | none => rfl
  | some link =>
      cases hOwns : link.ownsThrough <;>
        simp [Option.filter, hOwns]

/- A column of a link table holds the key of a model. -/
def IsLinkColumnOf
    (style : Style)
    (table : String)
    (column : String)
    (target : Model)
    (layout : ColumnLayout) : Prop :=
  ∃ key columnType,
    target.primaryKey = .ok key ∧
      style.dialect.columnType key.type = .ok columnType ∧
      layout =
        { name := column
          words := [columnType, "NOT NULL"]
          key :=
            some
              { constraint :=
                  Naming.keyName table column target.table
                    key.column
                column := column
                table := target.table
                field := key.column
                onDelete := .cascade } }

/-
  The link table of a relation of a model has a column for
  the model and one for the target, and nothing else.
-/
structure IsLinkLayoutOf
    (planner : Planner)
    (style : Style)
    (model : Model)
    (owned : Relation × ManyToMany)
    (layout : TableLayout) : Prop where
  name : layout.name = owned.2.through
  columns :
    ∃ target near far,
      planner.catalog.model? owned.1.target = some target ∧
        IsLinkColumnOf style owned.2.through
          owned.2.backwardKey model near ∧
        IsLinkColumnOf style owned.2.through
          owned.2.forwardKey target far ∧
        layout.columns = [near, far]
  uniques : layout.uniques = []
  groups : layout.groups = []
  description : layout.description = owned.2.description

/- A model has a link table for each link that it creates. -/
structure IsModelLayoutOf
    (planner : Planner)
    (style : Style)
    (model : Model)
    (layout : ModelLayout) : Prop where
  isTable : planner.IsLayoutOf style model layout.table
  areLinks :
    List.Forall₂ (planner.IsLinkLayoutOf style model)
      (ownedLinks model) layout.links

variable {planner : Planner}
variable {style : Style}

/- Both foreign keys are to tables of models. -/
theorem IsLinkLayoutOf.exists_model
    {model : Model}
    {owned : Relation × ManyToMany}
    {layout : TableLayout}
    (hLayout :
      planner.IsLinkLayoutOf style model owned layout)
    (hModel : model ∈ planner.catalog.models)
    {key : KeyLayout}
    (hKey : key ∈ layout.keys) :
    ∃ target ∈ planner.catalog.models,
      key.table = target.table := by
  rcases hLayout.columns with
    ⟨target, near, far, hTarget, ⟨_, _, _, _, rfl⟩,
      ⟨_, _, _, _, rfl⟩, hColumns⟩
  rw [TableLayout.keys, hColumns] at hKey
  rcases List.mem_pair.mp hKey with rfl | rfl
  · exact ⟨model, hModel, rfl⟩
  · exact ⟨target, (Catalog.model?_eq_some hTarget).1, rfl⟩

end Planner

end Relmap
