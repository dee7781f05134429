import Relmap.Schema.Sqlite

/-
  Comments as a database reads them.

  A block comment ends where its end sign stands first. The
  escapes of a description neither make an end sign nor take
  one apart, so the comment of a table or column is a whole
  one exactly if the description has no such sign, and else
  the rest of the description stands outside of it.

  Main declarations:
    * `Text.afterBlockComment?`
    * `Text.afterEnd?_backslashEscapes`
    * `Dialect.HasBlockComments`
    * `Dialect.afterBlockComment?_of_comments`
    * `Dialect.exists_early_end`
-/

------------------------------------------------------------
-- Ends Of Comments
------------------------------------------------------------

namespace Relmap

namespace Text

/- The sign that ends a block comment. -/
def endSign : List Char := ['*', '/']

/- What stands behind the first end sign of a text. -/
def afterEnd? : List Char → Option (List Char)
  | '*' :: '/' :: rest => some rest
  | _ :: rest => afterEnd? rest
  | [] => none

/- What stands behind the comment that a text begins with. -/
def afterBlockComment? : List Char → Option (List Char)
  | '/' :: '*' :: rest => afterEnd? rest
  | _ => none

variable {c : Char}
variable {text : List Char}

/- Where no end sign begins the search goes on. -/
theorem afterEnd?_cons
    (hHead : ¬ endSign <+: c :: text) :
    afterEnd? (c :: text) = afterEnd? text := by
  rw [afterEnd?]
  rintro rest rfl rfl
  exact hHead (List.prefix_append endSign rest)

/- The search fails exactly if there is no end sign. -/
theorem afterEnd?_eq_none_iff :
    afterEnd? text = none ↔ ¬ endSign <:+: text := by
  induction text with
  | nil => decide
  | cons c text ih =>
      rw [List.infix_cons_iff, not_or, ← ih]
      by_cases hHead : endSign <+: c :: text
      · rcases hHead with ⟨rest, hRest⟩
        cases hRest
        simp [afterEnd?, endSign]
      · rw [afterEnd?_cons hHead]
        simp [hHead]

/- An end sign begins with a star that a slash follows. -/
theorem endSign_prefix_iff :
    endSign <+: c :: text ↔
      c = '*' ∧ text.head? = some '/' := by
  cases text with
  | nil => simp [endSign]
  | cons d rest => simp [endSign, eq_comm]

end Text

end Relmap

------------------------------------------------------------
-- Escaped Descriptions
------------------------------------------------------------

namespace Relmap

namespace Text

variable {c letter : Char}
variable {text tail : List Char}

/- No escape is written with a star. -/
theorem backslashLetter?_ne_star
    (hLetter : backslashLetter? c = some letter) :
    letter ≠ '*' := by
  unfold backslashLetter? at hLetter
  grind

/- Escapes put no slash in front of a text. -/
theorem head?_backslashEscapes_append
    (hTail : tail.head? ≠ some '/')
    (hHead :
      (backslashEscapes text ++ tail).head? = some '/') :
    text.head? = some '/' := by
  cases text with
  | nil => exact absurd hHead hTail
  | cons d rest =>
      rw [backslashEscapes] at hHead
      split at hHead
      · cases hHead
      · simpa using hHead

/-
  In an escaped description that an end sign follows, the
  first end sign is the first one of the description, if it
  has one.
-/
theorem afterEnd?_backslashEscapes (text : List Char) :
    afterEnd? (backslashEscapes text ++ [' ', '*', '/']) =
      some
        (match afterEnd? text with
        | some rest => backslashEscapes rest ++ [' ', '*', '/']
        | none => []) := by
  fun_induction afterEnd? text with
  | case1 rest => rfl
  | case2 c rest hOther ih =>
      rw [← ih, backslashEscapes]
      split
      · rename_i letter hLetter
        have hStar := backslashLetter?_ne_star hLetter
        rw [List.cons_append, List.cons_append,
          afterEnd?_cons (by simp [endSign_prefix_iff]),
          afterEnd?_cons (by simp [endSign_prefix_iff, hStar])]
      · rw [List.cons_append, afterEnd?_cons]
        rw [endSign_prefix_iff]
        rintro ⟨rfl, hHead⟩
        have hSlash :=
          head?_backslashEscapes_append (by decide) hHead
        rcases List.head?_eq_some_iff.mp hSlash with
          ⟨others, rfl⟩
        exact hOther others rfl rfl
  | case3 => rfl

end Text

end Relmap

------------------------------------------------------------
-- Block Comments
------------------------------------------------------------

namespace Relmap

/- The whole text is one block comment. -/
def Text.IsBlockComment (text : String) : Prop :=
  afterBlockComment? text.toList = some []

instance (text : String) :
    Decidable (Text.IsBlockComment text) :=
  inferInstanceAs
    (Decidable
      (Text.afterBlockComment? text.toList = some []))

namespace Dialect

/- The dialects with comments in block form. -/
inductive HasBlockComments : Dialect → Prop where
  | standard (name : String) :
      HasBlockComments (.standard name)
  | sqlite : HasBlockComments .sqlite

variable {dialect : Dialect}

/- They escape a description and put it between the signs. -/
theorem HasBlockComments.comments_eq
    (hDialect : dialect.HasBlockComments)
    (table column text : String) :
    dialect.tableComment table text =
        .inLine (blockComment (Text.escapeBackslash text)) ∧
      dialect.columnComment table column text =
        .inLine
          (blockComment (Text.escapeBackslash text)) := by
  cases hDialect with
  | standard name => exact ⟨rfl, rfl⟩
  | sqlite => exact ⟨rfl, rfl⟩

/-
  The comment of a table or column is inline, behind a blank.
  Behind the end of the block comment that it begins with
  stands nothing, exactly if the description has no end sign.
  Otherwise what follows the first end sign of the
  description stands there.
-/
theorem afterBlockComment?_of_comments
    (hDialect : dialect.HasBlockComments)
    (table column text : String) :
    ∃ comment,
      dialect.tableComment table text =
          .inLine (" " ++ comment) ∧
        dialect.columnComment table column text =
          .inLine (" " ++ comment) ∧
        (Text.IsBlockComment comment ↔
          ¬ Text.endSign <:+: text.toList) ∧
        ∀ rest,
          Text.afterEnd? text.toList = some rest →
            Text.afterBlockComment? comment.toList =
              some
                (Text.backslashEscapes rest ++
                  " */".toList) := by
  rcases hDialect.comments_eq table column text with
    ⟨hTable, hColumn⟩
  have hBlank :
      blockComment (Text.escapeBackslash text) =
        " " ++ ("/* " ++ Text.escapeBackslash text ++ " */") := by
    simp [← String.toList_inj, blockComment]
  have hAfter :
      Text.afterBlockComment?
          ("/* " ++ Text.escapeBackslash text ++
            " */").toList =
        some
          (match Text.afterEnd? text.toList with
          | some rest =>
              Text.backslashEscapes rest ++ " */".toList
          | none => []) := by
    have hText :=
      Text.afterEnd?_backslashEscapes text.toList
    simpa [Text.escapeBackslash, Text.afterBlockComment?,
      Text.afterEnd?] using hText
  rw [hBlank] at hTable hColumn
  refine ⟨_, hTable, hColumn, ?_, ?_⟩
  · rw [Text.IsBlockComment, hAfter,
      ← Text.afterEnd?_eq_none_iff]
    cases Text.afterEnd? text.toList with
    | none => simp
    | some rest => simp
  · intro rest hRest
    rw [hAfter, hRest]

/- Stars and slashes alone leave a comment whole. -/
theorem afterBlockComment?_of_comments_rating :
    ∃ comment,
      sqlite.columnComment "review" "rating" "1* / 5* \\*" =
          .inLine (" " ++ comment) ∧
        Text.IsBlockComment comment := by
  rcases afterBlockComment?_of_comments .sqlite "review"
      "rating" "1* / 5* \\*" with
    ⟨comment, _, hColumn, hWhole, _⟩
  exact ⟨comment, hColumn, hWhole.mpr (by decide +kernel)⟩

/- A pattern of paths ends the comment that describes it. -/
theorem exists_early_end :
    sqlite.columnComment "shelf" "path" "books/*/cover" =
        .inLine (" " ++ "/* books/*/cover */") ∧
      (standard "default").tableComment "shelf"
          "books/*/cover" =
        .inLine (" " ++ "/* books/*/cover */") ∧
      ¬ Text.IsBlockComment "/* books/*/cover */" ∧
      Text.afterBlockComment?
          "/* books/*/cover */".toList =
        some "cover */".toList := by
  decide +kernel

end Dialect

end Relmap
