import Relmap.Text.Escape

/-
  SQL text as a row of words.

  A blank ends a word unless it stands between quotes or in
  parentheses, so a quoted name, a string and everything in
  parentheses belong to one word.

  Main declarations:
    * `Sql.wordsFrom`
    * `Sql.words`
    * `Sql.IsWhole`
    * `Sql.isWhole_parens`
    * `Sql.isWhole_quoted`
    * `Sql.words_intercalate`
-/

------------------------------------------------------------
-- Words
------------------------------------------------------------

namespace Relmap

namespace Sql

/-
  A place in a text: the quote that it stands behind, if
  any, and the number of open parentheses.
-/
structure Place where
  quote : Option Char
  depth : Nat
  deriving DecidableEq

namespace Place

/- Outside all quotes, in so many parentheses. -/
def within (depth : Nat) : Place := ⟨none, depth⟩

/- The place behind a character. -/
def step (place : Place) (c : Char) : Place :=
  match place.quote with
  | some mark =>
      if c = mark then within place.depth else place
  | none =>
      if c = '\'' ∨ c = '"' then ⟨some c, place.depth⟩
      else if c = '(' then within (place.depth + 1)
      else if c = ')' then within (place.depth - 1)
      else place

end Place

/- The words of a text that begins at a place. -/
def wordsFrom :
    Place → List Char → List (List Char)
  | _, [] => [[]]
  | place, c :: rest =>
      if c = ' ' ∧ place = .within 0 then
        [] :: wordsFrom place rest
      else
        (wordsFrom (place.step c) rest).modifyHead (c :: ·)

/- The words of a text. -/
def words (text : String) : List String :=
  (wordsFrom (.within 0) text.toList).map String.ofList

end Sql

end Relmap

------------------------------------------------------------
-- Texts Without A Break
------------------------------------------------------------

namespace Relmap

namespace Sql

/-
  In at least so many parentheses the text belongs to one
  word and leaves the place as it was, whatever follows.
-/
def IsWhole (least : Nat) (text : List Char) : Prop :=
  ∀ depth, least ≤ depth → ∀ rest,
    wordsFrom (.within depth) (text ++ rest) =
      (wordsFrom (.within depth) rest).modifyHead
        (text ++ ·)

variable {least : Nat}

theorem isWhole_nil : IsWhole least [] :=
  fun _ _ _ => (congrFun List.modifyHead_id _).symm

/- Texts without a break may follow each other. -/
theorem isWhole_append
    {left right : List Char}
    (hLeft : IsWhole least left)
    (hRight : IsWhole least right) :
    IsWhole least (left ++ right) := by
  intro depth hDepth rest
  rw [List.append_assoc, hLeft depth hDepth,
    hRight depth hDepth, List.modifyHead_modifyHead]
  simp [Function.comp_def]

/- A break that no outer place has, no inner place has. -/
theorem isWhole_mono
    {greater : Nat}
    {text : List Char}
    (hWhole : IsWhole least text)
    (hLess : least ≤ greater) :
    IsWhole greater text :=
  fun depth hDepth =>
    hWhole depth (Nat.le_trans hLess hDepth)

/- The character neither quotes nor groups. -/
def isPlain (c : Char) : Bool :=
  c ≠ '\'' && c ≠ '"' && c ≠ '(' && c ≠ ')'

/- Nor does it separate. -/
def isSolid (c : Char) : Bool :=
  isPlain c && c ≠ ' '

/- A plain character does not move the place. -/
theorem step_of_isPlain
    {c : Char}
    (hPlain : isPlain c = true)
    (depth : Nat) :
    (Place.within depth).step c = .within depth := by
  simp only [isPlain, Bool.and_eq_true,
    decide_eq_true_eq] at hPlain
  simp [Place.step, Place.within, hPlain]

/- Solid characters are never a break. -/
theorem isWhole_of_solid
    {text : List Char}
    (hSolid : text.all isSolid = true) :
    IsWhole least text := by
  intro depth hDepth rest
  induction text with
  | nil => exact isWhole_nil depth hDepth rest
  | cons c text ih =>
      rw [List.all_cons, Bool.and_eq_true] at hSolid
      rcases hSolid with ⟨hFirst, hText⟩
      rw [isSolid, Bool.and_eq_true, decide_eq_true_eq]
        at hFirst
      rw [List.cons_append, wordsFrom,
        if_neg (fun hBreak => hFirst.2 hBreak.1),
        step_of_isPlain hFirst.1, ih hText,
        List.modifyHead_modifyHead]
      rfl

/- In parentheses a blank is no break either. -/
theorem isWhole_one_of_plain
    {text : List Char}
    (hPlain : text.all isPlain = true) :
    IsWhole 1 text := by
  intro depth hDepth rest
  induction text with
  | nil => exact isWhole_nil depth hDepth rest
  | cons c text ih =>
      rw [List.all_cons, Bool.and_eq_true] at hPlain
      rcases hPlain with ⟨hFirst, hText⟩
      have hInside : Place.within depth ≠ .within 0 := by
        simp only [Place.within, ne_eq, Place.mk.injEq,
          true_and]
        omega
      rw [List.cons_append, wordsFrom,
        if_neg (fun hBreak => hInside hBreak.2),
        step_of_isPlain hFirst, ih hText,
        List.modifyHead_modifyHead]
      rfl

/- Parentheses hide the breaks of what they hold. -/
theorem isWhole_parens
    {text : List Char}
    (hWhole : IsWhole 1 text) :
    IsWhole 0 ('(' :: (text ++ [')'])) := by
  intro depth _ rest
  have hOpen :
      (Place.within depth).step '(' = .within (depth + 1) :=
    rfl
  have hClose :
      (Place.within (depth + 1)).step ')' = .within depth :=
    rfl
  rw [List.cons_append, List.append_assoc, wordsFrom,
    if_neg (by simp), hOpen, hWhole (depth + 1) (by omega),
    List.cons_append, wordsFrom, if_neg (by simp), hClose,
    List.nil_append, List.modifyHead_modifyHead,
    List.modifyHead_modifyHead]
  simp [Function.comp_def]

end Sql

end Relmap

------------------------------------------------------------
-- Quoted Texts
------------------------------------------------------------

namespace Relmap

namespace Sql

/-
  Behind a quote everything up to the next one belongs to
  the word.
-/
theorem wordsFrom_quoted
    {mark : Char}
    {text : List Char}
    (hText : mark ∉ text)
    (depth : Nat)
    (rest : List Char) :
    wordsFrom ⟨some mark, depth⟩ (text ++ mark :: rest) =
      (wordsFrom (.within depth) rest).modifyHead
        (text ++ mark :: ·) := by
  induction text with
  | nil =>
      rw [List.nil_append, wordsFrom,
        if_neg (by simp [Place.within])]
      simp [Place.step]
  | cons c text ih =>
      rw [List.mem_cons, not_or] at hText
      have hStay :
          (Place.mk (some mark) depth).step c =
            ⟨some mark, depth⟩ := by
        simp [Place.step, Ne.symm hText.1]
      rw [List.cons_append, wordsFrom,
        if_neg (by simp [Place.within]), hStay, ih hText.2,
        List.modifyHead_modifyHead]
      rfl

/- A text between quotes is one word if it holds none. -/
theorem isWhole_quoted
    {mark : Char}
    (hMark : mark = '\'' ∨ mark = '"')
    {text : List Char}
    (hText : mark ∉ text) :
    IsWhole 0 (mark :: (text ++ [mark])) := by
  intro depth _ rest
  have hBlank : mark ≠ ' ' := by
    rcases hMark with rfl | rfl <;> decide
  have hOpen :
      (Place.within depth).step mark =
        ⟨some mark, depth⟩ := by
    simp [Place.step, Place.within, hMark]
  rw [List.cons_append, List.append_assoc, wordsFrom,
    if_neg (fun hBreak => hBlank hBreak.1), hOpen,
    List.singleton_append, wordsFrom_quoted hText,
    List.modifyHead_modifyHead]
  simp [Function.comp_def]

/-
  Behind a quote a text with doubled quotes belongs to the
  word: between the two quotes of a pair the place is
  outside for no longer than that.
-/
theorem wordsFrom_doubleQuotes
    (text : List Char)
    (depth : Nat)
    (rest : List Char) :
    wordsFrom ⟨some '\'', depth⟩
        (Text.doubleQuotes text ++ '\'' :: rest) =
      (wordsFrom (.within depth) rest).modifyHead
        (Text.doubleQuotes text ++ '\'' :: ·) := by
  induction text with
  | nil =>
      have hNone : '\'' ∉ ([] : List Char) := by simp
      exact wordsFrom_quoted hNone depth rest
  | cons c text ih =>
      rw [Text.doubleQuotes]
      by_cases hQuote : c = '\''
      · have hClose :
            (Place.mk (some '\'') depth).step '\'' =
              .within depth := rfl
        have hOpen :
            (Place.within depth).step '\'' =
              ⟨some '\'', depth⟩ := rfl
        rw [if_pos hQuote, List.cons_append, wordsFrom,
          if_neg (by simp), hClose, List.cons_append, wordsFrom,
          if_neg (by simp), hOpen, ih,
          List.modifyHead_modifyHead,
          List.modifyHead_modifyHead]
        rfl
      · have hStay :
            (Place.mk (some '\'') depth).step c =
              ⟨some '\'', depth⟩ := by
          simp [Place.step, hQuote]
        rw [if_neg hQuote, List.cons_append, wordsFrom,
          if_neg (by simp [Place.within]), hStay, ih,
          List.modifyHead_modifyHead]
        rfl

/- A quoted literal is one word whatever it holds. -/
theorem isWhole_literal (text : String) :
    IsWhole 0 (Text.quoted text).toList := by
  intro depth _ rest
  have hOpen :
      (Place.within depth).step '\'' =
        ⟨some '\'', depth⟩ := rfl
  have hQuoted :
      (Text.quoted text).toList =
        '\'' :: (Text.doubleQuotes text.toList ++ ['\'']) := by
    simp [Text.quoted, Text.escapeQuotes]
  rw [hQuoted, List.cons_append, List.append_assoc,
    wordsFrom, if_neg (by simp), hOpen,
    List.singleton_append, wordsFrom_doubleQuotes,
    List.modifyHead_modifyHead]
  simp [Function.comp_def]

end Sql

end Relmap

------------------------------------------------------------
-- Words With Blanks Between Them
------------------------------------------------------------

namespace Relmap

namespace Sql

/- A text without a break is one word. -/
theorem words_of_isWhole
    {word : String}
    (hWhole : IsWhole 0 word.toList) :
    words word = [word] := by
  have hOne := hWhole 0 (Nat.le_refl 0) []
  rw [List.append_nil] at hOne
  simp [words, hOne, wordsFrom]

/- A blank behind a text without a break ends a word. -/
theorem words_append_blank
    {word : String}
    (hWhole : IsWhole 0 word.toList)
    (rest : String) :
    words (word ++ " " ++ rest) = word :: words rest := by
  have hText :
      (word ++ " " ++ rest).toList =
        word.toList ++ ' ' :: rest.toList := by
    simp
  rw [words, hText, hWhole 0 (Nat.le_refl 0), wordsFrom,
    if_pos ⟨rfl, rfl⟩]
  simp [words]

/- Words with blanks between them are those words. -/
theorem words_intercalate
    {row : List String}
    (hRow : row ≠ [])
    (hWhole : ∀ word ∈ row, IsWhole 0 word.toList) :
    words (" ".intercalate row) = row := by
  induction row with
  | nil => exact absurd rfl hRow
  | cons word rest ih =>
      rcases List.forall_mem_cons.mp hWhole with ⟨hWord, hRest⟩
      cases rest with
      | nil =>
          rw [String.intercalate_singleton]
          exact words_of_isWhole hWord
      | cons next others =>
          rw [String.intercalate_cons_cons,
            words_append_blank hWord, ih (by simp) hRest]

/- In parentheses they are not broken. -/
theorem isWhole_intercalate
    {row : List String}
    (hWhole : ∀ word ∈ row, IsWhole 0 word.toList) :
    IsWhole 1 (" ".intercalate row).toList := by
  induction row with
  | nil => exact isWhole_nil
  | cons word rest ih =>
      rcases List.forall_mem_cons.mp hWhole with ⟨hWord, hRest⟩
      have hFirst := isWhole_mono hWord (Nat.zero_le 1)
      cases rest with
      | nil =>
          rw [String.intercalate_singleton]
          exact hFirst
      | cons next others =>
          have hBlank : IsWhole 1 " ".toList :=
            isWhole_one_of_plain (by decide)
          rw [String.intercalate_cons_cons,
            String.toList_append, String.toList_append]
          exact isWhole_append
            (isWhole_append hFirst hBlank) (ih hRest)

end Sql

end Relmap
