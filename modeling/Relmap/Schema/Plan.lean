import Relmap.Catalog.Basic
import Relmap.Schema.Naming
import Relmap.Schema.Table
import Relmap.Text.Ordered

/-
  Table plans: from a model to the definition of its table,
  the tables that it references, and the link tables of the
  relations that it owns.

  Parts of a table are collected by their place. Fields come
  in order of declaration, then groups of fields, then the
  comment of the table.

  Key definitions include:
    * `Parts`
    * `Parts.assemble`
    * `Planner`
    * `Planner.fieldPlan`
    * `Planner.linkTable`
    * `TablePlan`
    * `Planner.tablePlan`
-/

------------------------------------------------------------
-- Parts
------------------------------------------------------------

namespace Relmap

/- The parts of a table by their place. -/
structure Parts where
  entries : List Entry := []
  innerIndexes : List Entry := []
  innerReferences : List Entry := []
  statements : List Statement := []
  comments : List Statement := []

namespace Parts

/- Parts followed by other parts, place by place. -/
def append
    (left : Parts)
    (right : Parts) : Parts :=
  { entries := left.entries ++ right.entries
    innerIndexes := left.innerIndexes ++ right.innerIndexes
    innerReferences :=
      left.innerReferences ++ right.innerReferences
    statements := left.statements ++ right.statements
    comments := left.comments ++ right.comments }

/- All parts of a list, in order. -/
def concat (parts : List Parts) : Parts :=
  parts.foldl append {}

/- The parts of a comment that is not inline. -/
def ofComment : Option Clause → Parts
  | some (.inner text) => { entries := [.note text] }
  | some (.trailing text) => { comments := [.comment text] }
  | _ => {}

/- The parts of an index. -/
def ofIndex
    (columns : List String) : Clause → Parts
  | .trailing text => { statements := [.index columns text] }
  | .inner text => { innerIndexes := [.index columns text] }
  | .inLine text => { innerIndexes := [.index columns text] }

/-
  The parts of a column with a reference. The inline comment
  belongs to the reference if that is inline too.
-/
def ofReference
    (definition : String)
    (ref : Reference) : Clause → Parts
  | .inLine text =>
      { entries :=
          [.column ref.column (definition ++ text) (some ref)] }
  | .inner text =>
      { entries :=
          [.column ref.column (definition ++ ref.comment) none]
        innerReferences := [.reference ref text] }
  | .trailing text =>
      { entries :=
          [.column ref.column (definition ++ ref.comment) none]
        statements := [.reference ref text] }

/-
  The definition of a table from its parts: indexes and
  references stand at the end of the body, and comments
  after all other statements.
-/
def assemble
    (parts : Parts)
    (table : String)
    (comment : String) : TableDefinition :=
  { table := table
    entries :=
      parts.entries ++ parts.innerIndexes ++
        parts.innerReferences
    comment := comment
    statements := parts.statements ++ parts.comments }

end Parts

/- The text of a comment that is inline. -/
def Clause.inlineText : Option Clause → String
  | some (.inLine text) => text
  | _ => ""

end Relmap

------------------------------------------------------------
-- Fields
------------------------------------------------------------

namespace Relmap

/- What the plans of a schema are made with. -/
structure Planner where
  catalog : Catalog
  dialect : Dialect
  config : SchemaConfig := {}

/- The parts, referenced tables and indexes of a field. -/
structure FieldPlan where
  parts : Parts
  references : List String := []
  indexed : List String := []

namespace Planner

/- The foreign key that a field of a model backs. -/
def backedKey?
    (model : Model)
    (field : Field) : Option (Relation × ForeignKey) := do
  let name ← field.reference
  let relation ← model.relation? name
  let key ← relation.foreignKey?
  return (relation, key)

/- The definition of a column without its comment. -/
def columnDefinition
    (planner : Planner)
    (field : Field) : Except Error String := do
  let columnType ← planner.dialect.columnType field.type
  return planner.dialect.quote field.column ++ " " ++
    columnType ++
    (if field.nullable then "" else " NOT NULL") ++
    (if field.unique then " UNIQUE" else "") ++
    (if field.primaryKey then " PRIMARY KEY" else "")

/-
  The whole column of a generated key. A key that references
  another table one to one is not generated.
-/
def generatedKey?
    (planner : Planner)
    (field : Field)
    (backed : Option (Relation × ForeignKey))
    (comment : String) : Option String :=
  if field.primaryKey &&
      !(backed.any fun (_, key) => key.oneToOne) then
    planner.dialect.keyColumn? field.column field.type comment
  else none

/- The reference of a column to the target of a relation. -/
def referenceTo
    (planner : Planner)
    (table : String)
    (column : String)
    (onDelete : OnDelete)
    (comment : String)
    (target : String) : Except Error Reference := do
  let model ← planner.catalog.require target
  let key ← model.keyColumn
  return {
    constraint :=
      Naming.keyName table column model.table key
    column := column
    table := model.table
    field := key
    onDelete := onDelete
    comment := comment }

/- The column of a field that has to be written out. -/
def writtenColumn
    (planner : Planner)
    (model : Model)
    (field : Field)
    (backed : Option (Relation × ForeignKey))
    (comment : String) : Except Error FieldPlan := do
  let column := field.column
  let definition ← planner.columnDefinition field
  let indexed := if field.index then [column] else []
  match backed with
  | none =>
      let entry := Entry.column column (definition ++ comment) none
      return {
        parts := { entries := [entry] }
        indexed := indexed }
  | some (relation, key) =>
      let ref ←
        planner.referenceTo model.table column key.onDelete
          comment relation.target
      let clause := planner.dialect.reference ref
      return {
        parts := Parts.ofReference definition ref clause
        references := [ref.table]
        indexed := indexed }

/- The plan of a field, with its comment in front. -/
def fieldPlan
    (planner : Planner)
    (model : Model)
    (field : Field) : Except Error FieldPlan := do
  let clause :=
    field.description.map
      (planner.dialect.columnComment model.table field.column)
  let comment := Clause.inlineText clause
  let noted := Parts.ofComment clause
  let backed := backedKey? model field
  match planner.generatedKey? field backed comment with
  | some definition =>
      let entry := Entry.column field.column definition none
      return {
        parts := noted.append { entries := [entry] } }
  | none =>
      let written ←
        planner.writtenColumn model field backed comment
      return {
        written with parts := noted.append written.parts }

end Planner

end Relmap

------------------------------------------------------------
-- Groups Of Fields
------------------------------------------------------------

namespace Relmap

namespace Planner

/- The columns of the members of a group. -/
def groupColumns
    (model : Model)
    (option : String)
    (group : List String) : Except Error (List String) :=
  group.mapM fun name =>
    match model.columnFor? name with
    | some column => .ok column
    | none =>
        .error (.unknownGroupField name option model.name)

/- The parts of a unique constraint. -/
def uniqueParts
    (planner : Planner)
    (table : String)
    (columns : List String) : Parts :=
  let name := Naming.indexName "uid" table columns
  let text := planner.dialect.uniqueConstraint name columns
  { entries := [.unique columns text] }

/- The parts of an index. -/
def indexParts
    (planner : Planner)
    (table : String)
    (columns : List String) : Parts :=
  let name := Naming.indexName "idx" table columns
  Parts.ofIndex columns
    (planner.dialect.index name table columns
      planner.config.existsClause)

end Planner

end Relmap

------------------------------------------------------------
-- Link Tables
------------------------------------------------------------

namespace Relmap

namespace Planner

/- One column of a link table and its reference. -/
def linkColumn
    (planner : Planner)
    (through : String)
    (column : String)
    (target : Model)
    (key : Field) : Except Error Parts := do
  let columnType ← planner.dialect.columnType key.type
  let definition :=
    planner.dialect.quote column ++ " " ++ columnType ++
      " NOT NULL"
  let ref : Reference :=
    { constraint :=
        Naming.keyName through column target.table key.column
      column := column
      table := target.table
      field := key.column
      onDelete := .cascade
      comment := "" }
  return Parts.ofReference definition ref
    (planner.dialect.reference ref)

/- The link table of a relation of a model. -/
def linkTable
    (planner : Planner)
    (model : Model)
    (relation : Relation)
    (link : ManyToMany) : Except Error TableDefinition := do
  let target ← planner.catalog.require relation.target
  let ownKey ← model.primaryKey
  let targetKey ← target.primaryKey
  let near ←
    planner.linkColumn link.through link.backwardKey
      model ownKey
  let far ←
    planner.linkColumn link.through link.forwardKey
      target targetKey
  let clause :=
    link.description.map
      (planner.dialect.tableComment link.through)
  let parts :=
    Parts.concat [near, far, Parts.ofComment clause]
  return parts.assemble link.through
    (Clause.inlineText clause)

/- The link that a relation creates, if it creates one. -/
def ownedLink? (relation : Relation) : Option ManyToMany :=
  relation.manyToMany?.filter ManyToMany.ownsThrough

/- The link tables of the relations that a model owns. -/
def linkTables
    (planner : Planner)
    (model : Model) : Except Error (List TableDefinition) :=
  let owned :=
    model.relations.filterMap fun relation =>
      (ownedLink? relation).map fun link => (relation, link)
  owned.mapM fun (relation, link) =>
    planner.linkTable model relation link

end Planner

end Relmap

------------------------------------------------------------
-- Table Plans
------------------------------------------------------------

namespace Relmap

/-
  The plan of a model: its table, the tables that this one
  references in sorted order, and the link tables that come
  after all tables.
-/
structure TablePlan where
  table : String
  model : String := ""
  definition : TableDefinition := { table := table }
  references : List String := []
  links : List TableDefinition := []
  deriving DecidableEq

namespace Planner

/- The parts of the groups of fields of a model. -/
def groupParts
    (planner : Planner)
    (model : Model)
    (indexed : List String) : Except Error Parts := do
  let table := model.table
  let uniques ←
    model.uniqueTogether.mapM
      (groupColumns model "unique_together")
  let groups ←
    model.indexes.mapM (groupColumns model "indexes")
  let indexes := indexed.map ([·]) ++ groups
  return (Parts.concat
      (uniques.map (planner.uniqueParts table))).append
    (Parts.concat (indexes.map (planner.indexParts table)))

/- The plan of a model. -/
def tablePlan
    (planner : Planner)
    (model : Model) : Except Error TablePlan := do
  let fields ← model.fields.mapM (planner.fieldPlan model)
  let indexed := fields.flatMap FieldPlan.indexed
  let groups ← planner.groupParts model indexed
  let clause :=
    model.description.map
      (planner.dialect.tableComment model.table)
  let parts :=
    Parts.concat
      (fields.map FieldPlan.parts ++
        [groups, Parts.ofComment clause])
  let links ← planner.linkTables model
  return {
    table := model.table
    model := model.name
    definition :=
      parts.assemble model.table (Clause.inlineText clause)
    references :=
      Text.sortUnique (fields.flatMap FieldPlan.references)
    links := links }

/- The plans of all models in the order of the catalog. -/
def plans
    (planner : Planner) : Except Error (List TablePlan) :=
  planner.catalog.models.mapM planner.tablePlan

end Planner

end Relmap
