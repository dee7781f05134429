import Relmap.Schema.Dialect

/-
  The dialect of PostgreSQL: serial keys, and comments as
  statements after the table.

  Key definitions include:
    * `Dialect.serialType?`
    * `Dialect.postgres`
-/

------------------------------------------------------------
-- PostgreSQL
------------------------------------------------------------

namespace Relmap

namespace Dialect

/- Templates that differ from the common ones. -/
def postgresTemplates : List (String × TypeTemplate) :=
  [(FieldType.datetimeName, .fixed "TIMESTAMPTZ"),
    (FieldType.jsonName, .fixed "JSONB"),
    (FieldType.uuidName, .fixed "UUID"),
    (FieldType.binaryName, .fixed "BYTEA")]

/- The common standard with its own templates. -/
def postgresBase : Dialect :=
  { name := "postgres"
    template? := templateOver? postgresTemplates
    escapeComment := Text.escapeQuotes }

/- The type of a generated key for an integer type. -/
def serialType? (type : FieldType) : Option String :=
  if type.isA FieldType.smallIntName then
    some "SMALLSERIAL"
  else if type.isA FieldType.intName then some "SERIAL"
  else if type.isA FieldType.bigIntName then
    some "BIGSERIAL"
  else none

/- A key of an integer type is generated. -/
def postgresKeyColumn?
    (column : String)
    (type : FieldType)
    (_comment : String) : Option String :=
  (serialType? type).map fun serial =>
    postgresBase.quote column ++ " " ++ serial ++
      " NOT NULL PRIMARY KEY"

/- The statement that comments on a table. -/
def postgresTableComment
    (table : String)
    (comment : String) : Clause :=
  .trailing
    ("COMMENT ON TABLE " ++ postgresBase.quote table ++
      " IS '" ++ postgresBase.escapeComment comment ++ "';")

/- The statement that comments on a column. -/
def postgresColumnComment
    (table : String)
    (column : String)
    (comment : String) : Clause :=
  .trailing
    ("COMMENT ON COLUMN " ++ postgresBase.quote table ++
      "." ++ postgresBase.quote column ++ " IS '" ++
      postgresBase.escapeComment comment ++ "';")

def postgres : Dialect :=
  { postgresBase with
    keyColumn? := postgresKeyColumn?
    tableComment := postgresTableComment
    columnComment := postgresColumnComment }

end Dialect

end Relmap
