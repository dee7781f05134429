import Relmap.Schema.Dialect

/-
  The dialect of SQLite: comments in block form, and integer
  keys that count up.

  Key definitions include:
    * `Dialect.sqlite`
-/

------------------------------------------------------------
-- SQLite
------------------------------------------------------------

namespace Relmap

namespace Dialect

/- Templates that differ from the common ones. -/
def sqliteTemplates : List (String × TypeTemplate) :=
  [(FieldType.booleanName, .fixed "INT"),
    (FieldType.floatName, .fixed "REAL"),
    (FieldType.decimalName, .fixed "VARCHAR(40)")]

/- The common standard with its own templates. -/
def sqliteBase : Dialect :=
  { name := "sqlite"
    template? := templateOver? sqliteTemplates }

/- A key of an integer type is generated. -/
def sqliteKeyColumn?
    (column : String)
    (type : FieldType)
    (comment : String) : Option String :=
  if type.isInteger then
    some
      (sqliteBase.quote column ++
        " INTEGER PRIMARY KEY AUTOINCREMENT NOT NULL" ++
        comment)
  else none

def sqlite : Dialect :=
  { sqliteBase with keyColumn? := sqliteKeyColumn? }

end Dialect

end Relmap
