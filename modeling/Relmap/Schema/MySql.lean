import Relmap.Schema.Dialect

/-
  The dialect of MySQL: identifiers in backticks, comments as
  attributes, and keys and references inside the body of the
  table.

  Key definitions include:
    * `Dialect.defaultCharset`
    * `Dialect.mySql`
-/

------------------------------------------------------------
-- MySQL
------------------------------------------------------------

namespace Relmap

namespace Dialect

/- The character set of tables unless another is chosen. -/
def defaultCharset : String := "utf8mb4"

/- Templates that differ from the common ones. -/
def mySqlTemplates : List (String × TypeTemplate) :=
  [(FieldType.textName, .fixed "LONGTEXT"),
    (FieldType.datetimeName, .fixed "DATETIME(6)"),
    (FieldType.floatName, .fixed "DOUBLE"),
    (FieldType.jsonName, .fixed "JSON"),
    (FieldType.binaryName, .fixed "LONGBLOB")]

/- Identifiers stand in backticks. -/
def mySqlQuote (identifier : String) : String :=
  "`" ++ identifier ++ "`"

/- The common standard with its own quotes and templates. -/
def mySqlBase : Dialect :=
  { name := "mysql"
    quote := mySqlQuote
    template? := templateOver? mySqlTemplates }

/-
  A key of an integer type is generated, if the type has a
  column type.
-/
def mySqlKeyColumn?
    (column : String)
    (type : FieldType)
    (comment : String) : Option String :=
  if type.isInteger then
    (mySqlBase.columnType type).toOption.map fun columnType =>
      mySqlQuote column ++ " " ++ columnType ++
        " NOT NULL PRIMARY KEY AUTO_INCREMENT" ++ comment
  else none

/- The comment of a table as an attribute. -/
def mySqlTableComment
    (_table : String)
    (comment : String) : Clause :=
  .inLine
    (" COMMENT='" ++ mySqlBase.escapeComment comment ++ "'")

/- The comment of a column as an attribute. -/
def mySqlColumnComment
    (_table : String)
    (_column : String)
    (comment : String) : Clause :=
  .inLine
    (" COMMENT '" ++ mySqlBase.escapeComment comment ++ "'")

/- A reference as a named constraint in the body. -/
def mySqlReference (ref : Reference) : Clause :=
  .inner
    ("CONSTRAINT " ++ mySqlQuote ref.constraint ++
      " FOREIGN KEY (" ++ mySqlQuote ref.column ++
      ") REFERENCES " ++ mySqlQuote ref.table ++ " (" ++
      mySqlQuote ref.field ++ ") ON DELETE " ++
      ref.onDelete.sql)

/- A unique constraint in the body. -/
def mySqlUnique
    (name : String)
    (columns : List String) : String :=
  "UNIQUE KEY " ++ mySqlQuote name ++ " (" ++
    mySqlBase.quoteList columns ++ ")"

/- An index in the body. -/
def mySqlIndex
    (name : String)
    (_table : String)
    (columns : List String)
    (_guard : String) : Clause :=
  .inner
    ("KEY " ++ mySqlQuote name ++ " (" ++
      mySqlBase.quoteList columns ++ ")")

/- The dialect with a character set for its tables. -/
def mySql (charset : String) : Dialect :=
  { mySqlBase with
    keyColumn? := mySqlKeyColumn?
    tableComment := mySqlTableComment
    columnComment := mySqlColumnComment
    reference := mySqlReference
    uniqueConstraint := mySqlUnique
    index := mySqlIndex
    tableExtra := fun _ => " CHARACTER SET " ++ charset }

end Dialect

end Relmap
