import Relmap.Proofs.Criterion.Words

/-
  A row of words, parted at a connective.

  The AND of a BETWEEN parts nothing, and neither does a
  connective in parentheses, since those are within a word.

  Main declarations:
    * `Sql.clauses`
    * `Sql.IsClause`
    * `Sql.clauses_intercalate`
    * `Criterion.operandPhrase`
    * `Criterion.clauses_operandPhrase`
-/

------------------------------------------------------------
-- Clauses
------------------------------------------------------------

namespace Relmap

namespace Sql

/-
  The parts of a row of words, where an AND may still be
  due to a BETWEEN.
-/
def clausesFrom
    (word : String) : Bool → List String →
      List (List String)
  | _, [] => [[]]
  | due, next :: rest =>
      if due = true ∧ next = "AND" then
        (clausesFrom word false rest).modifyHead (next :: ·)
      else if next = word then
        [] :: clausesFrom word false rest
      else
        (clausesFrom word (due || next = "BETWEEN")
          rest).modifyHead (next :: ·)

/- The parts of a row of words. -/
def clauses
    (word : String)
    (row : List String) : List (List String) :=
  clausesFrom word false row

/- The row belongs to one part, whatever follows. -/
def IsClause
    (word : String)
    (row : List String) : Prop :=
  ∀ rest,
    clauses word (row ++ rest) =
      (clauses word rest).modifyHead (row ++ ·)

variable {word : String}

/- Rows of one part may follow each other. -/
theorem isClause_append
    {left right : List String}
    (hLeft : IsClause word left)
    (hRight : IsClause word right) :
    IsClause word (left ++ right) := by
  intro rest
  rw [List.append_assoc, hLeft, hRight,
    List.modifyHead_modifyHead]
  simp [Function.comp_def]

/- A word of its own begins no other part. -/
theorem isClause_singleton
    {next : String}
    (hWord : next ≠ word)
    (hBetween : next ≠ "BETWEEN") :
    IsClause word [next] := by
  intro rest
  simp [clauses, clausesFrom, hWord, hBetween]

/- Words other than the keywords begin no other part. -/
theorem isClause_of_not_keywords
    (hKeyword : word ∈ keywords)
    {row : List String}
    (hRow : ∀ next ∈ row, next ∉ keywords) :
    IsClause word row := by
  induction row with
  | nil =>
      intro rest
      exact (congrFun List.modifyHead_id _).symm
  | cons next row ih =>
      rcases List.forall_mem_cons.mp hRow with ⟨hNext, hRow⟩
      have hWord : next ≠ word := by
        rintro rfl
        exact hNext hKeyword
      have hBetween : next ≠ "BETWEEN" := by
        rintro rfl
        exact hNext (by decide)
      exact isClause_append
        (isClause_singleton hWord hBetween) (ih hRow)

/- The AND behind a BETWEEN begins no other part. -/
theorem isClause_between
    (hWord : word ≠ "BETWEEN")
    (hKeyword : word ∈ keywords)
    {low : String}
    (hLow : low ∉ keywords) :
    IsClause word ["BETWEEN", low, "AND"] := by
  intro rest
  have hLowWord : low ≠ word := by
    rintro rfl
    exact hLow hKeyword
  have hLowAnd : low ≠ "AND" := by
    rintro rfl
    exact hLow (by decide)
  have hBetween : ("BETWEEN" : String) ≠ "AND" := by decide
  simp [clauses, clausesFrom, hWord.symm, hLowWord, hLowAnd,
    hBetween, Function.comp_def]

/- A row of one part. -/
theorem clauses_of_isClause
    {row : List String}
    (hClause : IsClause word row) :
    clauses word row = [row] := by
  have hOne := hClause []
  rw [List.append_nil] at hOne
  rw [hOne]
  simp [clauses, clausesFrom]

/- Two rows of parts are joined like the parts of a row. -/
theorem intercalate_append
    (separator : List String)
    {left right : List (List String)}
    (hLeft : left ≠ [])
    (hRight : right ≠ []) :
    separator.intercalate (left ++ right) =
      separator.intercalate left ++
        (separator ++ separator.intercalate right) := by
  induction left with
  | nil => exact absurd rfl hLeft
  | cons row rest ih =>
      cases rest with
      | nil =>
          rw [List.singleton_append,
            List.intercalate_cons_of_ne_nil hRight,
            List.intercalate_singleton, List.append_assoc]
      | cons next others =>
          rw [List.cons_append, List.cons_append,
            List.intercalate_cons_cons, ← List.cons_append,
            ih (by simp), List.intercalate_cons_cons,
            List.append_assoc, List.append_assoc,
            List.append_assoc]

/- Parts with the word between them are those parts. -/
theorem clauses_intercalate
    {rows : List (List String)}
    (hRows : rows ≠ [])
    (hClauses : ∀ row ∈ rows, IsClause word row) :
    clauses word ([word].intercalate rows) = rows := by
  induction rows with
  | nil => exact absurd rfl hRows
  | cons row rest ih =>
      rcases List.forall_mem_cons.mp hClauses with ⟨hRow, hRest⟩
      cases rest with
      | nil =>
          rw [List.intercalate_singleton]
          exact clauses_of_isClause hRow
      | cons next others =>
          have hIntercalated := ih (by simp) hRest
          rw [List.intercalate_cons_cons, List.append_assoc,
            hRow, List.singleton_append, clauses,
            clausesFrom]
          simpa [clauses] using hIntercalated

end Sql

end Relmap

------------------------------------------------------------
-- Clauses Of An Expression
------------------------------------------------------------

namespace Relmap

namespace Connective

variable (connective : Connective)

@[simp] theorem word_mem_keywords :
    connective.word ∈ Sql.keywords := by
  cases connective <;> decide

theorem word_ne_between :
    connective.word ≠ "BETWEEN" := by
  cases connective <;> decide

theorem other_word_ne_word :
    connective.other.word ≠ connective.word := by
  cases connective <;> decide

end Connective

namespace Criterion

open Sql

/- The expression neither joins nor is a chain. -/
def isSingle (c : Criterion) : Bool :=
  !c.isAnd && !c.isOr

/- The words of an operand of a chain of the connective. -/
def operandPhrase
    (connective : Connective)
    (c : Criterion) : List String :=
  grouped (connective.other.joins c) c.sql c.phrase

variable {connective : Connective}

@[simp] theorem operandPhrase_join
    (left right : Criterion) :
    operandPhrase connective (connective.join left right) =
      left.operandPhrase connective ++
        connective.word ::
          right.operandPhrase connective := by
  cases connective <;> rfl

theorem operandPhrase_of_not_joins
    {c : Criterion}
    (hJoins : connective.other.joins c = false) :
    c.operandPhrase connective = c.phrase := by
  rw [operandPhrase, hJoins]
  rfl

theorem operandPhrase_of_joins
    {c : Criterion}
    (hJoins : connective.other.joins c = true) :
    c.operandPhrase connective = ["(" ++ c.sql ++ ")"] := by
  rw [operandPhrase, hJoins]
  rfl

/- What is no chain of either kind is single. -/
theorem isSingle_of_not_joins
    {c : Criterion}
    (hJoins : connective.joins c = false)
    (hOther : connective.other.joins c = false) :
    c.isSingle = true := by
  cases connective <;>
    simp_all [isSingle, Connective.joins, Connective.other]

/- A text in parentheses is no keyword. -/
theorem parens_not_mem_keywords (text : String) :
    "(" ++ text ++ ")" ∉ keywords := by
  apply IsOperand.not_mem_keywords
  exact .inr ⟨'(', by simp, by decide⟩

/- Nothing parts an expression that is no chain. -/
theorem isClause_of_isSingle
    {c : Criterion}
    (hReadable : c.isReadable = true)
    (hSingle : c.isSingle = true) :
    IsClause connective.word c.phrase := by
  have hKeyword := connective.word_mem_keywords
  have hTerm (term : Term) (hTerm : term.isReadable = true) :
      term.sql ∉ keywords :=
    (term.isOperand_sql hTerm).not_mem_keywords
  have hValue
      (value : Value) (hDouble : value.hasDouble = false) :
      value.sql ∉ keywords :=
    (value.isOperand_sql hDouble).not_mem_keywords
  cases c with
  | compare left op right =>
      simp only [isReadable, Bool.and_eq_true] at hReadable
      have hOp : op.symbol ∉ keywords := by
        cases op <;> decide
      apply isClause_of_not_keywords hKeyword
      simp only [phrase, List.forall_mem_cons]
      exact ⟨hTerm left hReadable.1, hOp,
        hTerm right hReadable.2, by simp⟩
  | member term values negated =>
      simp only [isReadable, Bool.and_eq_true,
        Bool.not_eq_true'] at hReadable
      have hIn :
          ∀ next ∈ if negated then ["NOT", "IN"] else ["IN"],
            next ∉ keywords := by
        cases negated <;> decide
      apply isClause_of_not_keywords hKeyword
      simp only [phrase, List.forall_mem_cons,
        List.forall_mem_append]
      exact ⟨hTerm term hReadable.1, hIn,
        hValue _ hReadable.2, by simp⟩
  | between term low high =>
      simp only [isReadable, Bool.and_eq_true,
        Bool.not_eq_true'] at hReadable
      have hFirst :
          IsClause connective.word [term.sql] :=
        isClause_of_not_keywords hKeyword (by
          simpa using hTerm term hReadable.1.1)
      have hRange :
          IsClause connective.word
            ["BETWEEN", low.sql, "AND"] :=
        isClause_between connective.word_ne_between hKeyword
          (hValue low hReadable.1.2)
      have hLast :
          IsClause connective.word [high.sql] :=
        isClause_of_not_keywords hKeyword (by
          simpa using hValue high hReadable.2)
      exact isClause_append hFirst
        (isClause_append hRange hLast)
  | isNull term negated =>
      have hNull :
          ∀ next ∈ if negated then ["IS", "NOT", "NULL"]
              else ["IS", "NULL"],
            next ∉ keywords := by
        cases negated <;> decide
      apply isClause_of_not_keywords hKeyword
      simp only [phrase, List.forall_mem_cons]
      exact ⟨hTerm term hReadable, hNull⟩
  | like term pattern =>
      simp only [isReadable, Bool.and_eq_true] at hReadable
      apply isClause_of_not_keywords hKeyword
      simp only [phrase, List.forall_mem_cons]
      exact ⟨hTerm term hReadable.1, by decide,
        hTerm pattern hReadable.2, by decide⟩
  | literal value =>
      apply isClause_of_not_keywords hKeyword
      cases value <;> decide
  | and left right => simp [isSingle, isAnd] at hSingle
  | or left right => simp [isSingle, isOr] at hSingle
  | not inner =>
      apply isClause_of_not_keywords hKeyword
      simp only [phrase, List.forall_mem_cons]
      exact ⟨by decide, parens_not_mem_keywords _, by simp⟩

/- Nothing parts an operand of a chain. -/
theorem isClause_operandPhrase
    {c : Criterion}
    (hReadable : c.isReadable = true)
    (hJoins : connective.joins c = false)
    (parting : Connective) :
    IsClause parting.word (c.operandPhrase connective) := by
  by_cases hOther : connective.other.joins c = true
  · rw [operandPhrase_of_joins hOther]
    apply isClause_of_not_keywords parting.word_mem_keywords
    simpa using parens_not_mem_keywords c.sql
  · rw [Bool.not_eq_true] at hOther
    rw [operandPhrase_of_not_joins hOther]
    exact isClause_of_isSingle hReadable
      (isSingle_of_not_joins hJoins hOther)

/-
  A connective parts its own chains only: a chain of the
  other one below it stands in parentheses.
-/
theorem isClause_phrase
    {c : Criterion}
    (hReadable : c.isReadable = true)
    (hJoins : connective.joins c = false) :
    IsClause connective.word c.phrase := by
  have hSides (side : Criterion)
      (hSide : side.isReadable = true)
      (ih : side.isReadable = true →
        connective.joins side = false →
          IsClause connective.word side.phrase) :
      IsClause connective.word
        (side.operandPhrase connective.other) := by
    cases hGroup : connective.joins side with
    | true =>
        have hOther :
            connective.other.other.joins side = true := by
          cases connective <;> exact hGroup
        rw [operandPhrase_of_joins hOther]
        apply isClause_of_not_keywords
          connective.word_mem_keywords
        simpa using parens_not_mem_keywords side.sql
    | false =>
        have hOther :
            connective.other.other.joins side = false := by
          cases connective <;> exact hGroup
        rw [operandPhrase_of_not_joins hOther]
        exact ih hSide hGroup
  induction c using connective.other.chain_induction with
  | chain left right ihLeft ihRight =>
      have hBoth :
          left.isReadable = true ∧
            right.isReadable = true := by
        cases connective <;>
          simpa [isReadable, Connective.join,
            Connective.other] using hReadable
      have hPhrase :
          (connective.other.join left right).phrase =
            left.operandPhrase connective.other ++
              ([connective.other.word] ++
                right.operandPhrase connective.other) := by
        cases connective <;> rfl
      have hWord :
          IsClause connective.word
            [connective.other.word] :=
        isClause_singleton connective.other_word_ne_word
          connective.other.word_ne_between
      rw [hPhrase]
      exact isClause_append
        (hSides left hBoth.1 ihLeft)
        (isClause_append hWord
          (hSides right hBoth.2 ihRight))
  | single c hOther =>
      exact isClause_of_isSingle hReadable
        (isSingle_of_not_joins hJoins hOther)

/- The operands of a readable chain are readable. -/
theorem isReadable_of_mem_operands
    {c operand : Criterion}
    (hReadable : c.isReadable = true)
    (hMember : operand ∈ c.operands connective) :
    operand.isReadable = true := by
  induction c using connective.chain_induction with
  | chain left right ihLeft ihRight =>
      have hBoth :
          left.isReadable = true ∧
            right.isReadable = true := by
        cases connective <;>
          simpa [isReadable, Connective.join] using hReadable
      rw [Connective.operands_join, List.mem_append]
        at hMember
      exact hMember.elim (ihLeft hBoth.1)
        (ihRight hBoth.2)
  | single c hJoins =>
      rw [operands_of_not_joins hJoins, List.mem_singleton]
        at hMember
      rw [hMember]
      exact hReadable

/- The words of an operand are among those of its chain. -/
theorem operandPhrase_subset
    {c operand : Criterion}
    (hMember : operand ∈ c.operands connective) :
    operand.operandPhrase connective ⊆
      c.operandPhrase connective := by
  induction c using connective.chain_induction with
  | chain left right ihLeft ihRight =>
      rw [Connective.operands_join, List.mem_append]
        at hMember
      intro word hWord
      rw [operandPhrase_join, List.mem_append, List.mem_cons]
      rcases hMember with hLeft | hRight
      · exact .inl (ihLeft hLeft hWord)
      · exact .inr (.inr (ihRight hRight hWord))
  | single c hJoins =>
      rw [operands_of_not_joins hJoins, List.mem_singleton]
        at hMember
      rw [hMember]
      exact List.Subset.refl _

/- A chain is its operands with the connective between. -/
theorem operandPhrase_eq_intercalate (c : Criterion) :
    c.operandPhrase connective =
      [connective.word].intercalate
        ((c.operands connective).map
          (operandPhrase connective)) := by
  induction c using connective.chain_induction with
  | chain left right ihLeft ihRight =>
      have hOperands (side : Criterion) :
          (side.operands connective).map
            (operandPhrase connective) ≠ [] := by
        rw [ne_eq, List.map_eq_nil_iff]
        exact side.operands_ne_nil
      rw [operandPhrase_join, Connective.operands_join,
        List.map_append, ihLeft, ihRight]
      exact (intercalate_append [connective.word]
        (hOperands left) (hOperands right)).symm
  | single c hJoins =>
      rw [operands_of_not_joins hJoins]
      exact List.intercalate_singleton.symm

/- A chain is parted into its operands. -/
theorem clauses_operandPhrase
    {c : Criterion}
    (hReadable : c.isReadable = true) :
    clauses connective.word (c.operandPhrase connective) =
      (c.operands connective).map
        (operandPhrase connective) := by
  have hOperands :
      (c.operands connective).map
        (operandPhrase connective) ≠ [] := by
    rw [ne_eq, List.map_eq_nil_iff]
    exact c.operands_ne_nil
  rw [c.operandPhrase_eq_intercalate]
  apply clauses_intercalate hOperands
  intro row hRow
  rcases List.mem_map.mp hRow with ⟨operand, hMember, rfl⟩
  exact isClause_operandPhrase
    (isReadable_of_mem_operands hReadable hMember)
    (not_joins_of_mem_operands hMember) connective

end Criterion

end Relmap
