import Relmap.Digest.Sha256

/-
  Names of constraints and indexes.

  A name shows the beginnings of the names that it is made
  of, and ends in the first digits of a digest of all of
  them, so it is short and still distinct. The digest is a
  parameter of the definitions, and SHA-256 in use.

  Key definitions include:
    * `Naming.shortHash`
    * `Naming.indexNameWith`
    * `Naming.keyNameWith`
    * `Naming.indexName`
    * `Naming.keyName`
-/

------------------------------------------------------------
-- Parts Of Names
------------------------------------------------------------

namespace Relmap

namespace Naming

/- No generated name is longer than this. -/
def maxLength : Nat := 30

/- The first characters of a text. -/
def truncate
    (count : Nat)
    (text : String) : String :=
  String.ofList (text.toList.take count)

/- The text of which the digest is taken. -/
def joined (parts : List String) : String :=
  ";".intercalate parts

/- The first digits of the digest of some names. -/
def shortHash
    (digest : String → String)
    (parts : List String)
    (length : Nat) : String :=
  truncate length (digest (joined parts))

end Naming

end Relmap

------------------------------------------------------------
-- Names
------------------------------------------------------------

namespace Relmap

namespace Naming

/-
  The name of an index or unique constraint: its kind, the
  table, the first field, and the digest of table and fields.
-/
def indexNameWith
    (digest : String → String)
    (kind : String)
    (table : String)
    (fields : List String) : String :=
  kind ++ "_" ++ truncate 11 table ++ "_" ++
    truncate 7 (fields.headD "") ++ "_" ++
    shortHash digest (table :: fields) 6

/-
  The name of a foreign-key constraint: both tables, and the
  digest of both columns with their tables.
-/
def keyNameWith
    (digest : String → String)
    (fromTable : String)
    (fromField : String)
    (toTable : String)
    (toField : String) : String :=
  "fk_" ++ truncate 8 fromTable ++ "_" ++
    truncate 8 toTable ++ "_" ++
    shortHash digest
      [fromTable, fromField, toTable, toField] 8

/- The name of an index. -/
def indexName : String → String → List String → String :=
  indexNameWith Digest.sha256Hex

/- The name of a foreign-key constraint. -/
def keyName :
    String → String → String → String → String :=
  keyNameWith Digest.sha256Hex

end Naming

end Relmap
