import Relmap.Catalog.Relation
import Relmap.Schema.ColumnType
import Relmap.Text.Escape

/-
  Dialects: how a database writes the parts of a schema.

  A dialect decides how identifiers are quoted, which type a
  column has, and where comments, references and indexes
  stand. What a dialect does not decide follows the common
  standard, with comments in block form.

  Key definitions include:
    * `Clause`
    * `Reference`
    * `Dialect`
    * `Dialect.quoteList`
    * `Dialect.columnType`
    * `Dialect.standard`
-/

------------------------------------------------------------
-- Clauses And References
------------------------------------------------------------

namespace Relmap

/-
  A clause by its place: at the end of the column or table
  that it belongs to, as an entry of the table body, or as a
  statement after the table.
-/
inductive Clause where
  | inLine (text : String)
  | inner (text : String)
  | trailing (text : String)
  deriving DecidableEq

/- A clause without its place. -/
def Clause.text : Clause → String
  | .inLine text => text
  | .inner text => text
  | .trailing text => text

/- A reference from a column to the key of another table. -/
structure Reference where
  constraint : String
  column : String
  table : String
  field : String
  onDelete : OnDelete
  comment : String
  deriving DecidableEq

end Relmap

------------------------------------------------------------
-- Dialects
------------------------------------------------------------

namespace Relmap

/- A text as a block comment behind a blank. -/
def blockComment (escaped : String) : String :=
  " /* " ++ escaped ++ " */"

/- The decisions of a dialect. -/
structure Dialect where
  name : String
  quote : String → String :=
    fun identifier => "\"" ++ identifier ++ "\""
  template? : String → Option TypeTemplate := baseTemplate?
  /- The whole column of a generated key, given the column,
  its type and its inline comment. -/
  keyColumn? : String → FieldType → String → Option String :=
    fun _ _ _ => none
  escapeComment : String → String := Text.escapeBackslash
  /- The comment of a table. -/
  tableComment : String → String → Clause :=
    fun _ comment =>
      .inLine (blockComment (escapeComment comment))
  /- The comment of a column of a table. -/
  columnComment : String → String → String → Clause :=
    fun _ _ comment =>
      .inLine (blockComment (escapeComment comment))
  reference : Reference → Clause :=
    fun ref =>
      .inLine
        (" REFERENCES " ++ quote ref.table ++ " (" ++
          quote ref.field ++ ") ON DELETE " ++
          ref.onDelete.sql ++ ref.comment)
  /- A named unique constraint on columns. -/
  uniqueConstraint : String → List String → String :=
    fun name columns =>
      "CONSTRAINT " ++ quote name ++ " UNIQUE (" ++
        ", ".intercalate (columns.map quote) ++ ")"
  /- A named index of a table on columns, given the words
  that guard its creation. -/
  index : String → String → List String → String → Clause :=
    fun name table columns guard =>
      .trailing
        ("CREATE INDEX " ++ guard ++ quote name ++ " ON " ++
          quote table ++ " (" ++
          ", ".intercalate (columns.map quote) ++ ");")
  /- What stands between the body and the comment. -/
  tableExtra : String → String := fun _ => ""

namespace Dialect

/- Quoted identifiers with commas between them. -/
def quoteList
    (dialect : Dialect)
    (identifiers : List String) : String :=
  ", ".intercalate (identifiers.map dialect.quote)

/- The column type of a field type. -/
def columnType
    (dialect : Dialect) :
    FieldType → Except Error String :=
  columnTypeOf dialect.name dialect.template?

/- The dialect that decides nothing but its name. -/
def standard (name : String) : Dialect :=
  { name := name }

end Dialect

end Relmap
