import Relmap.Schema.MySql
import Relmap.Schema.Plan
import Relmap.Schema.Postgres
import Relmap.Schema.Sqlite

/-
  Spelling: the text of a schema from the tree of its tables.

  A table is a tree of columns, foreign keys, groups and
  descriptions. A style spells each of them as words with
  blanks between them, so the text says what is in the tree
  and nothing else. The dialects that schemas are made with
  write these words.

  Main declarations:
    * `Style`
    * `KeyLayout`
    * `ColumnLayout`
    * `TableLayout`
    * `TableLayout.sql`
    * `Style.dialect`
    * `Style.keyColumn?_dialect`
    * `Style.reference_dialect`
-/

------------------------------------------------------------
-- Trees Of Tables
------------------------------------------------------------

namespace Relmap

/-
  A foreign key: a column, and the field of the table that it
  references.
-/
structure KeyLayout where
  constraint : String
  column : String
  table : String
  field : String
  onDelete : OnDelete
  deriving DecidableEq

/- The foreign key of a reference, whatever its comment. -/
def Reference.key (ref : Reference) : KeyLayout :=
  { constraint := ref.constraint
    column := ref.column
    table := ref.table
    field := ref.field
    onDelete := ref.onDelete }

/-
  A column: the words that follow its name, its foreign key
  and its description, and whether it has an index.
-/
structure ColumnLayout where
  name : String
  words : List String
  key : Option KeyLayout := none
  description : Option String := none
  indexed : Bool := false

/-
  A table: its columns in order, the groups of columns that
  are unique or have an index, and its description.
-/
structure TableLayout where
  name : String
  columns : List ColumnLayout
  uniques : List (List String) := []
  groups : List (List String) := []
  description : Option String := none

/- The table of a model, and the link tables that it has. -/
structure ModelLayout where
  table : TableLayout
  links : List TableLayout

namespace TableLayout

/- The foreign keys of a table, in the order of columns. -/
def keys (layout : TableLayout) : List KeyLayout :=
  layout.columns.filterMap ColumnLayout.key

/- The columns of each index, those of one column first. -/
def indexes (layout : TableLayout) : List (List String) :=
  ((layout.columns.filter ColumnLayout.indexed).map
      fun column => [column.name]) ++
    layout.groups

end TableLayout

end Relmap

------------------------------------------------------------
-- Styles
------------------------------------------------------------

namespace Relmap

/- The ways in which a schema is spelled. -/
inductive Style where
  | standard (name : String)
  | sqlite
  | postgres
  | mySql (charset : String)

namespace Style

/- The dialect of a style. -/
def dialect : Style → Dialect
  | .standard name => .standard name
  | .sqlite => .sqlite
  | .postgres => .postgres
  | .mySql charset => .mySql charset

/- Indexes and foreign keys are entries of the body. -/
def keysInside : Style → Bool
  | .mySql _ => true
  | _ => false

/- Comments are statements behind the table. -/
def commentsBehind : Style → Bool
  | .postgres => true
  | _ => false

/- What stands on both sides of an identifier. -/
def mark : Style → String
  | .mySql _ => "`"
  | _ => "\""

/- An identifier between its marks. -/
def identifier
    (style : Style)
    (name : String) : String :=
  style.mark ++ name ++ style.mark

/- Identifiers in brackets, with commas between them. -/
def bracketed
    (style : Style)
    (names : List String) : String :=
  "(" ++ ", ".intercalate (names.map style.identifier) ++ ")"

/- Words with blanks between them. -/
def sentence (words : List String) : String :=
  " ".intercalate words

/- The guard of what is created. -/
def guardWords (config : SchemaConfig) : List String :=
  if config.safe then ["IF NOT EXISTS"] else []

/- The words that a table ends in, apart from its comment. -/
def tableWords : Style → List String
  | .mySql charset => ["CHARACTER SET", charset]
  | _ => []

end Style

end Relmap

------------------------------------------------------------
-- Keys
------------------------------------------------------------

namespace Relmap

namespace Style

/- The types of keys that count up, by types of fields. -/
def serials : List (String × String) :=
  [(FieldType.smallIntName, "SMALLSERIAL"),
    (FieldType.intName, "SERIAL"),
    (FieldType.bigIntName, "BIGSERIAL")]

/-
  The words that follow the name of a generated key, for the
  types of which keys are generated.
-/
def keyWords?
    (style : Style)
    (type : FieldType) : Option (List String) :=
  match style with
  | .standard _ => none
  | .sqlite =>
      if type.isInteger then
        some
          ["INTEGER", "PRIMARY KEY", "AUTOINCREMENT",
            "NOT NULL"]
      else none
  | .postgres =>
      (serials.find? fun serial => type.isA serial.1).map
        fun serial => [serial.2, "NOT NULL", "PRIMARY KEY"]
  | .mySql _ =>
      if type.isInteger then
        (style.dialect.columnType type).toOption.map
          fun columnType =>
            [columnType, "NOT NULL", "PRIMARY KEY",
              "AUTO_INCREMENT"]
      else none

/- What becomes of a row when its target is deleted. -/
def policy : OnDelete → String
  | .cascade => "CASCADE"
  | .restrict => "RESTRICT"
  | .setNull => "SET NULL"
  | .setDefault => "SET DEFAULT"
  | .noAction => "NO ACTION"

/-
  A foreign key says what it references. As an entry of the
  body it has a name, and says its column as well.
-/
def keyText
    (style : Style)
    (key : KeyLayout) : String :=
  let target :=
    ["REFERENCES", style.identifier key.table,
      style.bracketed [key.field], "ON DELETE",
      policy key.onDelete]
  if style.keysInside then
    sentence
      (["CONSTRAINT", style.identifier key.constraint,
          "FOREIGN KEY", style.bracketed [key.column]] ++
        target)
  else sentence target

/- A unique constraint on columns of a table. -/
def uniqueText
    (style : Style)
    (table : String)
    (columns : List String) : String :=
  let name :=
    style.identifier (Naming.indexName "uid" table columns)
  if style.keysInside then
    sentence ["UNIQUE KEY", name, style.bracketed columns]
  else
    sentence
      ["CONSTRAINT", name, "UNIQUE", style.bracketed columns]

/- An index on columns of a table. -/
def indexText
    (style : Style)
    (config : SchemaConfig)
    (table : String)
    (columns : List String) : String :=
  let name :=
    style.identifier (Naming.indexName "idx" table columns)
  if style.keysInside then
    sentence ["KEY", name, style.bracketed columns]
  else
    sentence
        (["CREATE INDEX"] ++ guardWords config ++
          [name, "ON", style.identifier table,
            style.bracketed columns]) ++ ";"

end Style

end Relmap

------------------------------------------------------------
-- Comments
------------------------------------------------------------

namespace Relmap

namespace Style

/- The comment on a column. -/
def columnNote
    (style : Style)
    (table : String)
    (column : String)
    (description : String) : String :=
  match style with
  | .mySql _ =>
      sentence
        ["COMMENT",
          "'" ++ Text.escapeBackslash description ++ "'"]
  | .postgres =>
      sentence
          ["COMMENT ON COLUMN",
            style.identifier table ++ "." ++
              style.identifier column,
            "IS",
            "'" ++ Text.escapeQuotes description ++ "'"] ++
        ";"
  | _ =>
      sentence
        ["/*", Text.escapeBackslash description, "*/"]

/- The comment on a table. -/
def tableNote
    (style : Style)
    (table : String)
    (description : String) : String :=
  match style with
  | .mySql _ =>
      "COMMENT='" ++ Text.escapeBackslash description ++ "'"
  | .postgres =>
      sentence
          ["COMMENT ON TABLE", style.identifier table, "IS",
            "'" ++ Text.escapeQuotes description ++ "'"] ++
        ";"
  | _ =>
      sentence
        ["/*", Text.escapeBackslash description, "*/"]

/- A comment at the end of what it is on. -/
def noteWords
    (style : Style)
    (note : Option String) : List String :=
  if style.commentsBehind then [] else note.toList

/- A comment that is a statement. -/
def noteStatements
    (style : Style)
    (note : Option String) : List String :=
  if style.commentsBehind then note.toList else []

@[simp] theorem noteWords_none (style : Style) :
    style.noteWords none = [] := by
  unfold noteWords
  split <;> rfl

@[simp] theorem noteStatements_none (style : Style) :
    style.noteStatements none = [] := by
  unfold noteStatements
  split <;> rfl

end Style

end Relmap

------------------------------------------------------------
-- Tables
------------------------------------------------------------

namespace Relmap

namespace ColumnLayout

variable (style : Style)
variable (table : String)

/- The comment on the column. -/
def note? (column : ColumnLayout) : Option String :=
  column.description.map
    (style.columnNote table column.name)

/-
  The name and the words of a column, then its foreign key
  and its comment if they do not stand elsewhere.
-/
def text (column : ColumnLayout) : String :=
  Style.sentence
    (style.identifier column.name :: column.words ++
      (if style.keysInside then []
        else (column.key.map style.keyText).toList) ++
      style.noteWords (column.note? style table))

end ColumnLayout

namespace TableLayout

variable (style : Style)
variable (config : SchemaConfig)

/- The comment on the table. -/
def note? (layout : TableLayout) : Option String :=
  layout.description.map (style.tableNote layout.name)

/- The entries of the body, in order. -/
def body (layout : TableLayout) : List String :=
  layout.columns.map (ColumnLayout.text style layout.name) ++
    layout.uniques.map (style.uniqueText layout.name) ++
    if style.keysInside then
      layout.indexes.map (style.indexText config layout.name) ++
        layout.keys.map style.keyText
    else []

/- The statements that follow the table, in order. -/
def statements (layout : TableLayout) : List String :=
  (if style.keysInside then []
    else
      layout.indexes.map
        (style.indexText config layout.name)) ++
    layout.columns.flatMap
      (fun column =>
        style.noteStatements (column.note? style layout.name)) ++
    style.noteStatements (layout.note? style)

/- The statement that creates the table. -/
def createText (layout : TableLayout) : String :=
  Style.sentence
      (["CREATE TABLE"] ++ Style.guardWords config ++
        [style.identifier layout.name,
          "(\n    " ++
            ",\n    ".intercalate (layout.body style config) ++
            "\n)"] ++
        style.tableWords ++
        style.noteWords (layout.note? style)) ++ ";"

/- The table and the statements that follow it, by lines. -/
def sql (layout : TableLayout) : String :=
  "\n".intercalate
    (layout.createText style config ::
      layout.statements style config)

end TableLayout

end Relmap

------------------------------------------------------------
-- Words In A Row
------------------------------------------------------------

namespace Relmap

namespace Style

/- Words with a blank in front of each. -/
def ending : List String → String
  | [] => ""
  | word :: rest => " " ++ word ++ ending rest

@[simp] theorem ending_nil : ending [] = "" := rfl

@[simp] theorem ending_cons
    (word : String)
    (rest : List String) :
    ending (word :: rest) = " " ++ word ++ ending rest :=
  rfl

@[simp] theorem ending_append (left right : List String) :
    ending (left ++ right) = ending left ++ ending right := by
  induction left with
  | nil => exact String.empty_append.symm
  | cons word rest ih =>
      rw [List.cons_append, ending_cons, ending_cons, ih]
      simp only [String.append_assoc]

/- A sentence is its first word and an ending. -/
@[simp] theorem sentence_cons
    (word : String)
    (rest : List String) :
    sentence (word :: rest) = word ++ ending rest := by
  induction rest generalizing word with
  | nil =>
      rw [sentence, String.intercalate_singleton, ending_nil,
        String.append_empty]
  | cons next rest ih =>
      rw [sentence, String.intercalate_cons_cons, ← sentence,
        ih, ending_cons]
      simp only [String.append_assoc]

end Style

end Relmap

------------------------------------------------------------
-- Words Of Dialects
------------------------------------------------------------

namespace Relmap

namespace Style

variable (style : Style)

theorem quote_dialect :
    style.dialect.quote = style.identifier := by
  cases style <;> rfl

theorem tableExtra_dialect (table : String) :
    style.dialect.tableExtra table =
      ending style.tableWords := by
  cases style with
  | standard name => rfl
  | sqlite => rfl
  | postgres => rfl
  | mySql charset =>
      apply String.toList_inj.mp
      simp [dialect, Dialect.mySql, tableWords]

/- A comment at the end of what it is on, or behind all. -/
def noteClause (note : String) : Clause :=
  if style.commentsBehind then .trailing note
  else .inLine (" " ++ note)

/- A comment in block form is three words. -/
theorem blockComment_eq (text : String) :
    blockComment text =
      " " ++ sentence ["/*", text, "*/"] := by
  apply String.toList_inj.mp
  simp [blockComment]

theorem columnComment_dialect
    (table column description : String) :
    style.dialect.columnComment table column description =
      style.noteClause
        (style.columnNote table column description) := by
  cases style with
  | standard name =>
      exact congrArg Clause.inLine (blockComment_eq _)
  | sqlite => exact congrArg Clause.inLine (blockComment_eq _)
  | postgres =>
      apply congrArg Clause.trailing
      apply String.toList_inj.mp
      simp [columnNote, identifier, mark,
        Dialect.postgresBase]
  | mySql charset =>
      apply congrArg Clause.inLine
      apply String.toList_inj.mp
      simp [columnNote, Dialect.mySqlBase]

theorem tableComment_dialect (table description : String) :
    style.dialect.tableComment table description =
      style.noteClause
        (style.tableNote table description) := by
  cases style with
  | standard name =>
      exact congrArg Clause.inLine (blockComment_eq _)
  | sqlite => exact congrArg Clause.inLine (blockComment_eq _)
  | postgres =>
      apply congrArg Clause.trailing
      apply String.toList_inj.mp
      simp [tableNote, identifier, mark, Dialect.postgresBase]
  | mySql charset =>
      apply congrArg Clause.inLine
      apply String.toList_inj.mp
      simp [tableNote, Dialect.mySqlBase]

/- A reference is its key, and ends in its comment. -/
theorem reference_dialect (ref : Reference) :
    style.dialect.reference ref =
      if style.keysInside then .inner (style.keyText ref.key)
      else
        .inLine
          (" " ++ style.keyText ref.key ++ ref.comment) := by
  have hPolicy : ref.onDelete.sql = policy ref.onDelete := by
    cases ref.onDelete <;> rfl
  have hClause :
      style.dialect.reference ref =
        if style.keysInside then
          .inner
            ("CONSTRAINT " ++ style.identifier ref.constraint ++
              " FOREIGN KEY (" ++ style.identifier ref.column ++
              ") REFERENCES " ++ style.identifier ref.table ++
              " (" ++ style.identifier ref.field ++
              ") ON DELETE " ++ ref.onDelete.sql)
        else
          .inLine
            (" REFERENCES " ++ style.identifier ref.table ++
              " (" ++ style.identifier ref.field ++
              ") ON DELETE " ++ ref.onDelete.sql ++
              ref.comment) := by
    cases style <;> rfl
  rw [hClause, hPolicy]
  cases hInside : style.keysInside with
  | true =>
      apply congrArg Clause.inner
      apply String.toList_inj.mp
      simp [keyText, bracketed, Reference.key, hInside]
  | false =>
      apply congrArg Clause.inLine
      apply String.toList_inj.mp
      simp [keyText, bracketed, Reference.key, hInside]

theorem uniqueConstraint_dialect
    (table : String)
    (columns : List String) :
    style.dialect.uniqueConstraint
        (Naming.indexName "uid" table columns) columns =
      style.uniqueText table columns := by
  have hText (name : String) :
      style.dialect.uniqueConstraint name columns =
        if style.keysInside then
          "UNIQUE KEY " ++ style.identifier name ++ " (" ++
            ", ".intercalate (columns.map style.identifier) ++
            ")"
        else
          "CONSTRAINT " ++ style.identifier name ++
            " UNIQUE (" ++
            ", ".intercalate (columns.map style.identifier) ++
            ")" := by
    cases style <;> rfl
  rw [hText, uniqueText]
  apply String.toList_inj.mp
  split <;> simp [bracketed]

theorem index_dialect
    (config : SchemaConfig)
    (table : String)
    (columns : List String) :
    style.dialect.index
        (Naming.indexName "idx" table columns) table columns
        config.existsClause =
      if style.keysInside then
        .inner (style.indexText config table columns)
      else
        .trailing (style.indexText config table columns) := by
  have hClause (name : String) :
      style.dialect.index name table columns
          config.existsClause =
        if style.keysInside then
          .inner
            ("KEY " ++ style.identifier name ++ " (" ++
              ", ".intercalate
                (columns.map style.identifier) ++ ")")
        else
          .trailing
            ("CREATE INDEX " ++ config.existsClause ++
              style.identifier name ++ " ON " ++
              style.identifier table ++ " (" ++
              ", ".intercalate
                (columns.map style.identifier) ++ ");") := by
    cases style <;> rfl
  rw [hClause]
  cases hInside : style.keysInside with
  | true =>
      apply congrArg Clause.inner
      apply String.toList_inj.mp
      simp [indexText, bracketed, hInside]
  | false =>
      apply congrArg Clause.trailing
      apply String.toList_inj.mp
      cases hSafe : config.safe <;>
        simp [indexText, bracketed, guardWords,
          SchemaConfig.existsClause, hInside, hSafe]

/- The type of a key that counts up is the first that fits. -/
theorem serialType?_eq (type : FieldType) :
    Dialect.serialType? type =
      (serials.find? fun serial =>
        type.isA serial.1).map Prod.snd := by
  unfold Dialect.serialType?
  simp only [serials, List.find?_cons, List.find?_nil]
  cases type.isA FieldType.smallIntName with
  | true => rfl
  | false =>
      cases type.isA FieldType.intName with
      | true => rfl
      | false => cases type.isA FieldType.bigIntName <;> rfl

/- A generated key is its words, and ends in its comment. -/
theorem keyColumn?_dialect
    (column : String)
    (type : FieldType)
    (note : Option String) :
    style.dialect.keyColumn? column type
        (ending (style.noteWords note)) =
      (style.keyWords? type).map fun words =>
        sentence
          (style.identifier column :: words ++
            style.noteWords note) := by
  cases style with
  | standard name => rfl
  | sqlite =>
      change Dialect.sqliteKeyColumn? column type _ = _
      simp only [Dialect.sqliteKeyColumn?, keyWords?]
      split
      · apply congrArg some
        apply String.toList_inj.mp
        simp [identifier, mark, Dialect.sqliteBase]
      · rfl
  | postgres =>
      change Dialect.postgresKeyColumn? column type "" = _
      rw [Dialect.postgresKeyColumn?, serialType?_eq, keyWords?,
        Option.map_map, Option.map_map]
      apply Option.map_congr
      intro serial _
      apply String.toList_inj.mp
      simp [identifier, mark, noteWords, commentsBehind,
        Dialect.postgresBase]
  | mySql charset =>
      change Dialect.mySqlKeyColumn? column type _ = _
      simp only [Dialect.mySqlKeyColumn?, keyWords?]
      split
      · rw [Option.map_map]
        apply Option.map_congr
        intro columnType _
        apply String.toList_inj.mp
        simp [identifier, mark, Dialect.mySqlQuote]
      · rfl

end Style

end Relmap
