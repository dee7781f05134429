import Relmap.Proofs.Criterion.Clauses

/-
  The text of an expression fixes its boolean shape.

  A reader with the usual precedence, parentheses before
  NOT before AND before OR, gets the shape of an expression
  back from its text. It knows nothing of comparisons: what
  is neither joined nor negated is a leaf.

  Main declarations:
    * `Shape.read`
    * `Criterion.readPhrase_phrase`
    * `Criterion.read_sql`
-/

------------------------------------------------------------
-- The Reader
------------------------------------------------------------

namespace Relmap

namespace Criterion

namespace Shape

/- The word is a text in parentheses. -/
def isGroup (word : String) : Bool :=
  word.toList.head? = some '('

/- What stands between the parentheses. -/
def inside (group : String) : String :=
  String.ofList group.toList.tail.dropLast

/-
  The shape of a part without connectives, given the shapes
  of what stands in parentheses.
-/
def readClause
    (readGroup : String → Shape) : List String → Shape
  | [word] =>
      if isGroup word then readGroup word else .leaf word
  | [first, second] =>
      if first = "NOT" then .not (readGroup second)
      else .leaf (" ".intercalate [first, second])
  | clause => .leaf (" ".intercalate clause)

/- The shape of the parts between a connective. -/
def readChain
    (connective : Connective)
    (readPart : List String → Shape)
    (row : List String) : Shape :=
  .ofParts connective
    ((Sql.clauses connective.word row).map readPart)

/- The shape of a row of words: OR parts before AND. -/
def readPhrase
    (readGroup : String → Shape)
    (row : List String) : Shape :=
  readChain .or (readChain .and (readClause readGroup)) row

/- The shape of a text with so many nested parentheses. -/
def readWithin : Nat → String → Shape
  | 0, text => .leaf text
  | limit + 1, text =>
      readPhrase (fun group => readWithin limit (inside group))
        (Sql.words text)

/-
  The shape of a text. Parentheses cannot nest deeper than
  the text is long.
-/
def read (text : String) : Shape :=
  readWithin (text.length + 1) text

end Shape

end Criterion

end Relmap

------------------------------------------------------------
-- Reading A Row Of Words
------------------------------------------------------------

namespace Relmap

namespace Criterion

open Shape

/-
  The groups of a row are read as the expressions that they
  are the texts of.
-/
def ReadsGroups
    (readGroup : String → Shape)
    (row : List String) : Prop :=
  ∀ inner : Criterion, inner.isReadable = true →
    "(" ++ inner.sql ++ ")" ∈ row →
      readGroup ("(" ++ inner.sql ++ ")") = inner.flatten

variable {readGroup : String → Shape}
variable {connective : Connective}

theorem isGroup_parens (text : String) :
    isGroup ("(" ++ text ++ ")") = true := by
  simp [isGroup]

theorem inside_parens (text : String) :
    inside ("(" ++ text ++ ")") = text := by
  simp [inside]

/- More than two words are a comparison. -/
theorem readClause_of_length
    {clause : List String}
    (hLength : 2 < clause.length) :
    readClause readGroup clause =
      .leaf (" ".intercalate clause) := by
  match clause, hLength with
  | _ :: _ :: _ :: _, _ => rfl

/- The shape of an expression that is no chain. -/
theorem readClause_of_isSingle
    {c : Criterion}
    (hReadable : c.isReadable = true)
    (hSingle : c.isSingle = true)
    (hGroups : ReadsGroups readGroup c.phrase) :
    readClause readGroup c.phrase = c.flatten := by
  have hLeaf (hLength : 2 < c.phrase.length) :
      readClause readGroup c.phrase = .leaf c.sql := by
    rw [readClause_of_length hLength, ← sql_eq_intercalate]
  cases c with
  | compare left op right => exact hLeaf (by simp [phrase])
  | member term values negated =>
      exact hLeaf (by cases negated <;> simp [phrase])
  | between term low high => exact hLeaf (by simp [phrase])
  | isNull term negated =>
      exact hLeaf (by cases negated <;> simp [phrase])
  | like term pattern => exact hLeaf (by simp [phrase])
  | literal value => cases value <;> rfl
  | and left right => simp [isSingle, isAnd] at hSingle
  | or left right => simp [isSingle, isOr] at hSingle
  | not inner =>
      have hInner := hGroups inner hReadable
        (List.mem_cons_of_mem _ (List.mem_singleton_self _))
      rw [phrase, readClause, if_pos rfl, hInner]
      rfl

/- The shape of an operand of a chain. -/
theorem readClause_operandPhrase
    {c : Criterion}
    (hReadable : c.isReadable = true)
    (hJoins : connective.joins c = false)
    (hGroups :
      ReadsGroups readGroup (c.operandPhrase connective)) :
    readClause readGroup (c.operandPhrase connective) =
      c.flatten := by
  by_cases hOther : connective.other.joins c = true
  · rw [operandPhrase_of_joins hOther] at hGroups ⊢
    rw [readClause, if_pos (isGroup_parens c.sql)]
    exact hGroups c hReadable (List.mem_singleton_self _)
  · rw [Bool.not_eq_true] at hOther
    rw [operandPhrase_of_not_joins hOther] at hGroups ⊢
    exact readClause_of_isSingle hReadable
      (isSingle_of_not_joins hJoins hOther) hGroups

/- A chain is read once its operands are. -/
theorem readChain_operandPhrase
    {readPart : List String → Shape}
    {c : Criterion}
    (hReadable : c.isReadable = true)
    (hPart :
      ∀ operand ∈ c.operands connective,
        readPart (operand.operandPhrase connective) =
          operand.flatten) :
    readChain connective readPart
        (c.operandPhrase connective) =
      c.flatten := by
  have hShapes :
      (c.operands connective).map
          (readPart ∘ operandPhrase connective) =
        (c.operands connective).map flatten :=
    List.map_congr_left hPart
  rw [readChain, clauses_operandPhrase hReadable,
    List.map_map, hShapes, ← flatten_eq_ofParts]

/- A row of one part is read as that part. -/
theorem readChain_of_isClause
    {readPart : List String → Shape}
    {row : List String}
    (hClause : Sql.IsClause connective.word row) :
    readChain connective readPart row = readPart row := by
  rw [readChain, Sql.clauses_of_isClause hClause]
  rfl

/- Groups of an operand are groups of its chain. -/
theorem ReadsGroups.of_subset
    {part row : List String}
    (hGroups : ReadsGroups readGroup row)
    (hSubset : part ⊆ row) :
    ReadsGroups readGroup part :=
  fun inner hReadable hMember =>
    hGroups inner hReadable (hSubset hMember)

/- The shape of an expression that is no OR. -/
theorem readChain_and_phrase
    {c : Criterion}
    (hReadable : c.isReadable = true)
    (hOr : c.isOr = false)
    (hGroups : ReadsGroups readGroup c.phrase) :
    readChain .and (readClause readGroup) c.phrase =
      c.flatten := by
  have hPhrase : c.operandPhrase .and = c.phrase :=
    operandPhrase_of_not_joins hOr
  rw [← hPhrase] at hGroups ⊢
  apply readChain_operandPhrase hReadable
  intro operand hMember
  exact readClause_operandPhrase
    (isReadable_of_mem_operands hReadable hMember)
    (not_joins_of_mem_operands hMember)
    (hGroups.of_subset (operandPhrase_subset hMember))

/-
  The shape of any expression. An AND outside parentheses
  is within one part of the OR; otherwise the parts are the
  operands of the OR, and no AND parts those.
-/
theorem readPhrase_phrase
    {c : Criterion}
    (hReadable : c.isReadable = true)
    (hGroups : ReadsGroups readGroup c.phrase) :
    readPhrase readGroup c.phrase = c.flatten := by
  unfold readPhrase
  by_cases hAnd : c.isAnd = true
  · have hOr : c.isOr = false := by
      cases c <;> simp_all [isAnd, isOr]
    have hClause :
        Sql.IsClause Connective.or.word c.phrase :=
      isClause_phrase hReadable hOr
    rw [readChain_of_isClause hClause]
    exact readChain_and_phrase hReadable hOr hGroups
  · rw [Bool.not_eq_true] at hAnd
    have hPhrase : c.operandPhrase .or = c.phrase :=
      operandPhrase_of_not_joins hAnd
    rw [← hPhrase] at hGroups ⊢
    apply readChain_operandPhrase hReadable
    intro operand hMember
    have hOperand :=
      isReadable_of_mem_operands hReadable hMember
    have hJoins := not_joins_of_mem_operands hMember
    rw [readChain_of_isClause
      (isClause_operandPhrase hOperand hJoins .and)]
    exact readClause_operandPhrase hOperand hJoins
      (hGroups.of_subset (operandPhrase_subset hMember))

end Criterion

end Relmap

------------------------------------------------------------
-- Reading A Text
------------------------------------------------------------

namespace Relmap

namespace Criterion

open Shape

/- A word is no longer than its text. -/
theorem length_le_of_mem_intercalate
    {word : String}
    {row : List String}
    (hMember : word ∈ row) :
    word.length ≤ (" ".intercalate row).length := by
  induction row with
  | nil => simp at hMember
  | cons next rest ih =>
      cases rest with
      | nil =>
          apply Nat.le_of_eq
          rw [List.mem_singleton.mp hMember,
            String.intercalate_singleton]
      | cons other others =>
          rw [String.intercalate_cons_cons,
            String.length_append, String.length_append]
          rcases List.mem_cons.mp hMember with
            rfl | hMember
          · omega
          · have hRest := ih hMember
            omega

/- With enough depth the shape is read back. -/
theorem readWithin_sql
    {limit : Nat}
    {c : Criterion}
    (hReadable : c.isReadable = true)
    (hLimit : c.sql.length < limit) :
    readWithin limit c.sql = c.flatten := by
  induction limit generalizing c with
  | zero => omega
  | succ limit ih =>
      rw [readWithin, words_sql hReadable]
      apply readPhrase_phrase hReadable
      intro inner hInner hMember
      have hLength :=
        length_le_of_mem_intercalate hMember
      rw [← sql_eq_intercalate] at hLength
      simp only [String.length_append] at hLength
      show
        readWithin limit (inside ("(" ++ inner.sql ++ ")")) =
          inner.flatten
      rw [inside_parens]
      apply ih hInner
      have hParens : "(".length = 1 := rfl
      omega

/-
  Reading the text of an expression recovers it up to the
  grouping of its chains, whatever its names and strings
  hold, so two expressions with one text have one shape.
-/
theorem read_sql
    (c : Criterion)
    (d : Criterion)
    (hReadable : c.isReadable = true)
    (hOther : d.isReadable = true) :
    read c.sql = c.flatten ∧
      (c.sql = d.sql → c.flatten = d.flatten) := by
  have hRead (e : Criterion) (hE : e.isReadable = true) :
      read e.sql = e.flatten :=
    readWithin_sql hE (Nat.lt_succ_self _)
  refine ⟨hRead c hReadable, ?_⟩
  intro hText
  rw [← hRead c hReadable, ← hRead d hOther, hText]

/- A range over strings that look like SQL. -/
private def deceptiveRange : Criterion :=
  .between (.qualified "book" "a) AND (b")
    (.string "it's \" OR (") (.string "') AND ")

/- Nothing is not null, or the count is zero. -/
private def eitherOfTwo : Criterion :=
  .or
    (.not (.or (.isNull (.bare "id") true) (.literal false)))
    (.compare (.aggregate .count (some (.bare "id")) true) .eq
      (.value (.int64 0)))

/- Three expressions joined from the left. -/
private def joinedLeft : Criterion :=
  .and (.and deceptiveRange eitherOfTwo) deceptiveRange

/- The same three joined from the right. -/
private def joinedRight : Criterion :=
  .and deceptiveRange (.and eitherOfTwo deceptiveRange)

theorem read_sql_joined :
    joinedLeft.sql = joinedRight.sql ∧
      read joinedLeft.sql = joinedLeft.flatten ∧
        joinedLeft.flatten = joinedRight.flatten := by
  have hText : joinedLeft.sql = joinedRight.sql := by
    decide +kernel
  have hBoth :=
    read_sql joinedLeft joinedRight (by decide +kernel)
      (by decide +kernel)
  exact ⟨hText, hBoth.1, hBoth.2 hText⟩

end Criterion

end Relmap
