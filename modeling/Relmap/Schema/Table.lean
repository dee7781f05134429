import Relmap.Schema.Config
import Relmap.Schema.Dialect

/-
  Table definitions: the parts of a CREATE TABLE statement
  and of the statements that belong to it. Every part keeps
  what it stands for beside its text.

  Key definitions include:
    * `Entry`
    * `Statement`
    * `TableDefinition`
    * `TableDefinition.references`
    * `TableDefinition.sql`
-/

------------------------------------------------------------
-- Entries And Statements
------------------------------------------------------------

namespace Relmap

/-
  An entry of a table body: a column, with its reference if
  the text has it, a comment, a unique constraint, an index,
  or a reference of one of the columns.
-/
inductive Entry where
  | column
      (name : String)
      (body : String)
      (reference : Option Reference)
  | note (body : String)
  | unique (columns : List String) (body : String)
  | index (columns : List String) (body : String)
  | reference (ref : Reference) (body : String)
  deriving DecidableEq

/- A statement that follows a table. -/
inductive Statement where
  | reference (ref : Reference) (body : String)
  | index (columns : List String) (body : String)
  | comment (body : String)
  deriving DecidableEq

/- The text of an entry. -/
def Entry.text : Entry → String
  | .column _ body _ => body
  | .note body => body
  | .unique _ body => body
  | .index _ body => body
  | .reference _ body => body

/- The reference that an entry holds. -/
def Entry.reference? : Entry → Option Reference
  | .column _ _ ref => ref
  | .reference ref _ => some ref
  | _ => none

/- The text of a statement. -/
def Statement.text : Statement → String
  | .reference _ body => body
  | .index _ body => body
  | .comment body => body

/- The reference that a statement holds. -/
def Statement.reference? : Statement → Option Reference
  | .reference ref _ => some ref
  | _ => none

end Relmap

------------------------------------------------------------
-- Definitions
------------------------------------------------------------

namespace Relmap

/-
  A table with the entries of its body, its inline comment
  and the statements that follow it.
-/
structure TableDefinition where
  table : String
  entries : List Entry := []
  comment : String := ""
  statements : List Statement := []
  deriving DecidableEq

namespace TableDefinition

/- Every reference of a table, wherever it is written. -/
def references (definition : TableDefinition) :
    List Reference :=
  definition.entries.filterMap Entry.reference? ++
    definition.statements.filterMap Statement.reference?

/- The CREATE TABLE statement. -/
def createSql
    (dialect : Dialect)
    (config : SchemaConfig)
    (definition : TableDefinition) : String :=
  "CREATE TABLE " ++ config.existsClause ++
    dialect.quote definition.table ++ " (\n    " ++
    ",\n    ".intercalate
      (definition.entries.map Entry.text) ++
    "\n)" ++ dialect.tableExtra definition.table ++
    definition.comment ++ ";"

/- The statement and those that follow it, a line each. -/
def sql
    (dialect : Dialect)
    (config : SchemaConfig)
    (definition : TableDefinition) : String :=
  "\n".intercalate
    (definition.createSql dialect config ::
      definition.statements.map Statement.text)

end TableDefinition

end Relmap
