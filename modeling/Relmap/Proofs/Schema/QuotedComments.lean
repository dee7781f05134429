import Mathlib.Logic.Function.Defs
import Relmap.Proofs.Value.Reader
import Relmap.Schema.MySql
import Relmap.Schema.Postgres

/-
  Comments in single quotes as a database reads them.

  Whatever a description holds, what stands in the quotes
  reads as the description, and the literal ends with its
  closing quote and not before. One style of literals has
  backslash escapes, the other has doubled quotes.

  Main declarations:
    * `Text.unescape?`
    * `Text.undouble?`
    * `Sql.readEscaped`
    * `Sql.LiteralStyle.Says`
    * `Sql.says_escapeBackslash`
    * `Sql.says_escapeQuotes`
    * `Dialect.comments_say_descriptions`
-/

------------------------------------------------------------
-- The Inside Of A Literal
------------------------------------------------------------

namespace Relmap

namespace Text

/- The character that a letter after a backslash stands for. -/
def escapedChar? : Char → Option Char
  | '0' => some '\x00'
  | '\\' => some '\\'
  | 'n' => some '\n'
  | 'r' => some '\r'
  | 'Z' => some '\x1a'
  | '"' => some '"'
  | '\'' => some '\''
  | _ => none

/-
  What the inside of a literal with backslash escapes says.
  It says nothing if a quote or a backslash stands alone.
-/
def unescape? : List Char → Option (List Char)
  | [] => some []
  | '\\' :: letter :: inside =>
      (escapedChar? letter).bind fun c =>
        (unescape? inside).map (c :: ·)
  | c :: inside =>
      if c = '\'' ∨ c = '\\' then none
      else (unescape? inside).map (c :: ·)

/-
  What the inside of a literal with doubled quotes says. It
  says nothing if a quote stands alone.
-/
def undouble? : List Char → Option (List Char)
  | [] => some []
  | '\'' :: '\'' :: inside =>
      (undouble? inside).map ('\'' :: ·)
  | c :: inside =>
      if c = '\'' then none
      else (undouble? inside).map (c :: ·)

variable {c letter : Char}

/- A letter stands for the character that it is written for. -/
theorem escapedChar?_of_backslashLetter?
    (hLetter : backslashLetter? c = some letter) :
    escapedChar? letter = some c := by
  unfold backslashLetter? at hLetter
  repeat' split at hLetter
  all_goals cases hLetter
  all_goals subst c; rfl

/- Quotes and backslashes have a letter. -/
theorem ne_of_backslashLetter?_eq_none
    (hLetter : backslashLetter? c = none) :
    c ≠ '\'' ∧ c ≠ '\\' := by
  unfold backslashLetter? at hLetter
  grind

/- Escapes say the text that they were made for. -/
theorem unescape?_backslashEscapes (text : List Char) :
    unescape? (backslashEscapes text) = some text := by
  induction text with
  | nil => rfl
  | cons c text ih =>
      rw [backslashEscapes]
      split
      · rename_i letter hLetter
        rw [unescape?, ih,
          escapedChar?_of_backslashLetter? hLetter]
        rfl
      · rename_i hLetter
        rcases ne_of_backslashLetter?_eq_none hLetter with
          ⟨hQuote, hBackslash⟩
        rw [unescape?, ih, if_neg (by simp [hQuote, hBackslash])]
        · rfl
        · exact fun _ _ hFirst _ => hBackslash hFirst

/- So do doubled quotes. -/
theorem undouble?_doubleQuotes (text : List Char) :
    undouble? (doubleQuotes text) = some text := by
  induction text with
  | nil => rfl
  | cons c text ih =>
      rw [doubleQuotes]
      by_cases hQuote : c = '\''
      · rw [if_pos hQuote, undouble?, ih, hQuote]
        rfl
      · rw [if_neg hQuote, undouble?, ih, if_neg hQuote]
        · rfl
        · exact fun _ hFirst _ => hQuote hFirst

end Text

end Relmap

------------------------------------------------------------
-- Reading Up To The Closing Quote
------------------------------------------------------------

namespace Relmap

namespace Sql

/-
  The characters up to the quote that ends a string with
  backslash escapes, and the text behind it. Here too two
  quotes are one character.
-/
def readEscaped :
    List Char → Option (List Char × List Char)
  | [] => none
  | '\\' :: letter :: text =>
      (Text.escapedChar? letter).bind fun c =>
        (readEscaped text).map fun (content, rest) =>
          (c :: content, rest)
  | '\'' :: '\'' :: text =>
      (readEscaped text).map fun (content, rest) =>
        ('\'' :: content, rest)
  | '\'' :: text => some ([], text)
  | c :: text =>
      (readEscaped text).map fun (content, rest) =>
        (c :: content, rest)

variable {inside text rest : List Char}

/-
  What says a text is read to its end, for no sign of it
  reaches the closing quote.
-/
theorem readEscaped_of_unescape?
    (hInside : Text.unescape? inside = some text)
    (hRest : rest.head? ≠ some '\'') :
    readEscaped (inside ++ '\'' :: rest) =
      some (text, rest) := by
  fun_induction Text.unescape? inside generalizing text with
  | case1 =>
      cases hInside
      cases rest with
      | nil => rfl
      | cons c rest =>
          have hQuote : c ≠ '\'' := by simpa using hRest
          simp [readEscaped, hQuote]
  | case2 letter inside ih =>
      rcases Option.bind_eq_some_iff.mp hInside with
        ⟨c, hLetter, hInside⟩
      rcases Option.map_eq_some_iff.mp hInside with
        ⟨content, hContent, rfl⟩
      rw [List.cons_append, List.cons_append, readEscaped,
        hLetter, ih hContent]
      rfl
  | case3 => cases hInside
  | case4 c inside hOther hPlain ih =>
      rcases Option.map_eq_some_iff.mp hInside with
        ⟨content, hContent, rfl⟩
      rw [not_or] at hPlain
      rw [List.cons_append, readEscaped, ih hContent]
      · rfl
      · exact fun _ _ hFirst _ => hPlain.2 hFirst
      · exact fun _ hFirst _ => hPlain.1 hFirst
      · exact hPlain.1

end Sql

end Relmap

------------------------------------------------------------
-- Styles Of Literals
------------------------------------------------------------

namespace Relmap

namespace Sql

/-
  A style of literals: what the inside of one says, and what
  is read of a text behind an opening quote.
-/
structure LiteralStyle where
  inside? : List Char → Option (List Char)
  read : List Char → Option (List Char × List Char)

namespace LiteralStyle

/- Literals with backslash escapes. -/
def escapes : LiteralStyle :=
  ⟨Text.unescape?, readEscaped⟩

/- Literals with doubled quotes. -/
def doubled : LiteralStyle :=
  ⟨Text.undouble?, readQuoted⟩

/-
  The inside of a literal says a text. In front of whatever
  follows it, if that is no further quote, the closing quote
  is where reading stops.
-/
structure Says
    (style : LiteralStyle)
    (inside text : String) : Prop where
  decodes : style.inside? inside.toList = some text.toList
  ends :
    ∀ rest : List Char, rest.head? ≠ some '\'' →
      style.read (inside.toList ++ '\'' :: rest) =
        some (text.toList, rest)

/- It says one text only. -/
theorem Says.unique
    {style : LiteralStyle}
    {inside text other : String}
    (hText : style.Says inside text)
    (hOther : style.Says inside other) :
    text = other := by
  have hSame := hText.decodes.symm.trans hOther.decodes
  exact String.toList_inj.mp (Option.some.inj hSame)

end LiteralStyle

/- Escapes say their text and end where they are closed. -/
theorem says_escapeBackslash (text : String) :
    LiteralStyle.escapes.Says
      (Text.escapeBackslash text) text := by
  have hInside :
      Text.unescape? (Text.escapeBackslash text).toList =
        some text.toList := by
    rw [Text.escapeBackslash, String.toList_ofList]
    exact Text.unescape?_backslashEscapes text.toList
  exact ⟨hInside, fun _ => readEscaped_of_unescape? hInside⟩

/- So do doubled quotes. -/
theorem says_escapeQuotes (text : String) :
    LiteralStyle.doubled.Says
      (Text.escapeQuotes text) text := by
  constructor
  · rw [Text.escapeQuotes, String.toList_ofList]
    exact Text.undouble?_doubleQuotes text.toList
  · intro rest hRest
    rw [Text.escapeQuotes, String.toList_ofList]
    exact readQuoted_doubleQuotes text.toList hRest

end Sql

end Relmap

------------------------------------------------------------
-- Comments In Quotes
------------------------------------------------------------

namespace Relmap

namespace Dialect

open Sql

/-
  Comments say their descriptions: each is a clause around a
  literal that says its description, and no two descriptions
  have one comment.
-/
structure SaysDescription
    (style : LiteralStyle)
    (clause : String → Clause)
    (comment : String → Clause) : Prop where
  literal :
    ∀ text, ∃ inside,
      comment text = clause inside ∧ style.Says inside text
  injective : Function.Injective comment

variable {style : LiteralStyle}
variable {clause : String → Clause}

/-
  They do if descriptions are escaped for the style, and the
  clause shows what it is around.
-/
theorem saysDescription_of_escape
    {escape : String → String}
    (hClause : Function.Injective clause)
    (hSays : ∀ text, style.Says (escape text) text) :
    SaysDescription style clause
      (fun text => clause (escape text)) := by
  refine ⟨fun text => ⟨escape text, rfl, hSays text⟩, ?_⟩
  intro text other hComment
  have hInside : escape text = escape other :=
    hClause hComment
  have hText := hSays text
  rw [hInside] at hText
  exact hText.unique (hSays other)

/- A text between two others can be told from the whole. -/
theorem injective_between
    (front back : String)
    {place : String → Clause}
    (hPlace : Function.Injective place) :
    Function.Injective
      (fun inside => place (front ++ inside ++ back)) := by
  intro inside other hSame
  have hText := hPlace hSame
  rw [String.append_left_inj, String.append_right_inj]
    at hText
  exact hText

/-
  Comments of MySQL are literals with backslash escapes, and
  those of PostgreSQL with doubled quotes: each says exactly
  its description and ends with its closing quote, and each
  description has its own.
-/
theorem comments_say_descriptions
    (charset table column : String) :
    SaysDescription .escapes
        (fun inside =>
          .inLine (" COMMENT='" ++ inside ++ "'"))
        ((mySql charset).tableComment table) ∧
      SaysDescription .escapes
        (fun inside =>
          .inLine (" COMMENT '" ++ inside ++ "'"))
        ((mySql charset).columnComment table column) ∧
      SaysDescription .doubled
        (fun inside =>
          .trailing
            ("COMMENT ON TABLE " ++ postgres.quote table ++
              " IS '" ++ inside ++ "';"))
        (postgres.tableComment table) ∧
      SaysDescription .doubled
        (fun inside =>
          .trailing
            ("COMMENT ON COLUMN " ++ postgres.quote table ++
              "." ++ postgres.quote column ++ " IS '" ++
              inside ++ "';"))
        (postgres.columnComment table column) := by
  have hInLine : Function.Injective Clause.inLine :=
    fun _ _ => Clause.inLine.inj
  have hTrailing : Function.Injective Clause.trailing :=
    fun _ _ => Clause.trailing.inj
  exact
    ⟨saysDescription_of_escape
        (injective_between _ _ hInLine) says_escapeBackslash,
      saysDescription_of_escape
        (injective_between _ _ hInLine) says_escapeBackslash,
      saysDescription_of_escape
        (injective_between _ _ hTrailing) says_escapeQuotes,
      saysDescription_of_escape
        (injective_between _ _ hTrailing) says_escapeQuotes⟩

example :
    (mySql defaultCharset).columnComment "book" "title"
        "it's \\ or\n\"not\"" =
      .inLine " COMMENT 'it\\'s \\\\ or\\n\\\"not\\\"'" := by
  decide +kernel

end Dialect

end Relmap
