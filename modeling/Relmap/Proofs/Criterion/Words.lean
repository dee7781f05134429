import Relmap.Proofs.Criterion.Shape
import Relmap.Proofs.Value.Word

/-
  The words in the text of an expression.

  They can be told from the expression alone: whatever names
  and strings hold, and whatever stands in parentheses, does
  not add a word.

  Main declarations:
    * `Criterion.isReadable`
    * `Criterion.phrase`
    * `Criterion.sql_eq_intercalate`
    * `Criterion.words_sql`
-/

------------------------------------------------------------
-- Readable Expressions
------------------------------------------------------------

namespace Relmap

/- No name of the column holds a double quote. -/
def Column.isReadable (column : Column) : Bool :=
  column.table.all (fun table => '"' ∉ table.toList) &&
    '"' ∉ column.name.toList

/- No name holds a double quote, and no literal a double. -/
def Term.isReadable : Term → Bool
  | .column source => source.isReadable
  | .value literal => !literal.hasDouble
  | .aggregate _ none _ => true
  | .aggregate _ (some inner) _ => inner.isReadable
  | .upper inner => inner.isReadable

namespace Criterion

/- The terms and literals of an expression are such. -/
def isReadable : Criterion → Bool
  | .compare left _ right =>
      left.isReadable && right.isReadable
  | .member term values _ =>
      term.isReadable && !(Value.list values).hasDouble
  | .between term low high =>
      term.isReadable && !low.hasDouble && !high.hasDouble
  | .isNull term _ => term.isReadable
  | .like term pattern =>
      term.isReadable && pattern.isReadable
  | .literal _ => true
  | .and left right => left.isReadable && right.isReadable
  | .or left right => left.isReadable && right.isReadable
  | .not inner => inner.isReadable

end Criterion

end Relmap

------------------------------------------------------------
-- Terms Are Words
------------------------------------------------------------

namespace Relmap

open Sql

/- The name of a column is one word. -/
theorem Column.isWhole_sql
    {column : Column}
    (hReadable : column.isReadable = true) :
    IsWhole 0 column.sql.toList := by
  rcases column with ⟨table, name⟩
  simp only [isReadable, Bool.and_eq_true,
    decide_eq_true_eq] at hReadable
  rcases hReadable with ⟨hTable, hName⟩
  have hQuotedName := isWhole_quoted (.inr rfl) hName
  cases table with
  | none =>
      have hText :
          (sql ⟨none, name⟩).toList =
            '"' :: (name.toList ++ ['"']) := by
        simp [sql]
      rw [hText]
      exact hQuotedName
  | some table =>
      have hText :
          (sql ⟨some table, name⟩).toList =
            '"' :: (table.toList ++ ['"']) ++ ['.'] ++
              '"' :: (name.toList ++ ['"']) := by
        simp [sql]
      have hTableName : '"' ∉ table.toList := by
        simpa using hTable
      rw [hText]
      exact isWhole_append
        (isWhole_append
          (isWhole_quoted (.inr rfl) hTableName)
          (isWhole_of_solid (by decide)))
        hQuotedName

/- A call is one word if its argument would be one there. -/
private theorem isWhole_call
    (function : AggregateFunction)
    (distinct : Bool)
    {argument : String}
    (hArgument : IsWhole 1 argument.toList) :
    IsWhole 0
      (function.sqlName ++ "(" ++
        (if distinct then "DISTINCT " else "") ++
          argument ++ ")").toList := by
  have hName :
      function.sqlName.toList.all isSolid = true := by
    cases function <;> decide
  have hDistinct :
      IsWhole 1
        (if distinct then "DISTINCT " else "").toList :=
    isWhole_one_of_plain (by cases distinct <;> decide)
  have hText :
      (function.sqlName ++ "(" ++
        (if distinct then "DISTINCT " else "") ++
          argument ++ ")").toList =
        function.sqlName.toList ++ '(' ::
          ((if distinct then "DISTINCT " else "").toList ++
            argument.toList ++ [')']) := by
    simp
  rw [hText]
  exact isWhole_append (isWhole_of_solid hName)
    (isWhole_parens (isWhole_append hDistinct hArgument))

namespace Term

/- A term is one word. -/
theorem isWhole_sql :
    ∀ term : Term, term.isReadable = true →
      IsWhole 0 term.sql.toList
  | .column source, hReadable =>
      Column.isWhole_sql hReadable
  | .value literal, hReadable =>
      Value.isWhole_sql literal (by
        simpa [isReadable] using hReadable)
  | .aggregate function none distinct, _ => by
      rw [sql]
      exact isWhole_call function distinct
        (isWhole_of_solid (by decide))
  | .aggregate function (some inner) distinct,
      hReadable => by
      have hInner := isWhole_sql inner hReadable
      rw [sql]
      exact isWhole_call function distinct
        (isWhole_mono hInner (Nat.zero_le 1))
  | .upper inner, hReadable => by
      have hText :
          (sql (.upper inner)).toList =
            "UPPER".toList ++
              '(' :: (inner.sql.toList ++ [')']) := by
        simp [sql]
      rw [hText]
      exact isWhole_append (isWhole_of_solid (by decide))
        (isWhole_parens
          (isWhole_mono (isWhole_sql inner hReadable)
            (Nat.zero_le 1)))

/- No term reads like a keyword. -/
theorem isOperand_sql
    (term : Term)
    (hReadable : term.isReadable = true) :
    IsOperand term.sql := by
  cases term with
  | column source =>
      have hQuote : '"' ∈ source.sql.toList := by
        rcases source with ⟨table, name⟩
        cases table <;> simp [Column.sql]
      exact .inr ⟨'"', hQuote, by decide⟩
  | value literal =>
      exact literal.isOperand_sql (by
        simpa [isReadable] using hReadable)
  | aggregate function argument distinct =>
      refine .inr ⟨'(', ?_, by decide⟩
      rw [sql.eq_def]
      simp
  | upper inner =>
      exact .inr ⟨'(', by simp [sql], by decide⟩

end Term

end Relmap

------------------------------------------------------------
-- The Words Of An Expression
------------------------------------------------------------

namespace Relmap

namespace Criterion

open Sql

/- Put parentheses around a row of words if needed. -/
def grouped
    (needed : Bool)
    (text : String)
    (row : List String) : List String :=
  if needed then ["(" ++ text ++ ")"] else row

/- The words of an expression. -/
def phrase : Criterion → List String
  | .compare left op right =>
      [left.sql, op.symbol, right.sql]
  | .member term values negated =>
      term.sql :: ((if negated then ["NOT", "IN"] else ["IN"])
        ++ [(Value.list values).sql])
  | .between term low high =>
      [term.sql, "BETWEEN", low.sql, "AND", high.sql]
  | .isNull term negated =>
      term.sql :: (if negated then ["IS", "NOT", "NULL"]
        else ["IS", "NULL"])
  | .like term pattern =>
      [term.sql, "LIKE", pattern.sql, "ESCAPE", "'\\'"]
  | .literal value => [if value then "1=1" else "1=0"]
  | .and left right =>
      grouped left.isOr left.sql left.phrase ++
        "AND" :: grouped right.isOr right.sql right.phrase
  | .or left right =>
      grouped left.isAnd left.sql left.phrase ++
        "OR" :: grouped right.isAnd right.sql right.phrase
  | .not inner => ["NOT", "(" ++ inner.sql ++ ")"]

/- The row is not empty if it was not. -/
theorem grouped_ne_nil
    {needed : Bool}
    {text : String}
    {row : List String}
    (hRow : row ≠ []) :
    grouped needed text row ≠ [] := by
  unfold grouped
  split
  · exact List.cons_ne_nil _ _
  · exact hRow

/- There is always a word. -/
theorem phrase_ne_nil (c : Criterion) :
    c.phrase ≠ [] := by
  induction c with
  | and left right ihLeft _ =>
      exact List.append_ne_nil_of_left_ne_nil
        (grouped_ne_nil ihLeft) _
  | or left right ihLeft _ =>
      exact List.append_ne_nil_of_left_ne_nil
        (grouped_ne_nil ihLeft) _
  | _ => exact List.cons_ne_nil _ _

/- Parentheses make a row of words a single one. -/
theorem parenthesize_eq_intercalate
    {needed : Bool}
    {text : String}
    {row : List String}
    (hText : text = " ".intercalate row) :
    parenthesize needed text =
      " ".intercalate (grouped needed text row) := by
  unfold parenthesize grouped
  split
  · rw [String.intercalate_singleton]
  · exact hText

/- A word between two rows of words. -/
private theorem intercalate_around
    (word : String)
    {left right : List String}
    (hLeft : left ≠ [])
    (hRight : right ≠ []) :
    " ".intercalate (left ++ word :: right) =
      " ".intercalate left ++ (" " ++ word ++ " ") ++
        " ".intercalate right := by
  rw [String.intercalate_append_of_ne_nil hLeft
      (List.cons_ne_nil _ _),
    String.intercalate_cons_of_ne_nil hRight]
  simp only [String.append_assoc]

/- The text of an expression is its words. -/
theorem sql_eq_intercalate (c : Criterion) :
    c.sql = " ".intercalate c.phrase := by
  induction c with
  | and left right ihLeft ihRight =>
      rw [sql, phrase,
        intercalate_around "AND"
          (grouped_ne_nil left.phrase_ne_nil)
          (grouped_ne_nil right.phrase_ne_nil),
        ← parenthesize_eq_intercalate ihLeft,
        ← parenthesize_eq_intercalate ihRight]
      rfl
  | or left right ihLeft ihRight =>
      rw [sql, phrase,
        intercalate_around "OR"
          (grouped_ne_nil left.phrase_ne_nil)
          (grouped_ne_nil right.phrase_ne_nil),
        ← parenthesize_eq_intercalate ihLeft,
        ← parenthesize_eq_intercalate ihRight]
      rfl
  | member term values negated =>
      apply String.toList_inj.mp
      cases negated <;> simp [sql, phrase]
  | isNull term negated =>
      apply String.toList_inj.mp
      cases negated <;> simp [sql, phrase]
  | _ =>
      apply String.toList_inj.mp
      simp [sql, phrase]

/- In parentheses a text of whole words is one of them. -/
theorem isWhole_grouped
    {needed : Bool}
    {c : Criterion}
    (hWhole : ∀ word ∈ c.phrase, IsWhole 0 word.toList) :
    ∀ word ∈ grouped needed c.sql c.phrase,
      IsWhole 0 word.toList := by
  unfold grouped
  split
  · intro word hMember
    have hText :
        word.toList =
          '(' :: ((" ".intercalate c.phrase).toList ++
            [')']) := by
      rw [List.mem_singleton.mp hMember,
        c.sql_eq_intercalate]
      simp only [String.toList_append]
      rfl
    rw [hText]
    exact isWhole_parens (isWhole_intercalate hWhole)
  · exact hWhole

/- No word of a readable expression has a break. -/
theorem isWhole_of_mem_phrase
    {c : Criterion}
    (hReadable : c.isReadable = true) :
    ∀ word ∈ c.phrase, IsWhole 0 word.toList := by
  induction c with
  | compare left op right =>
      simp only [isReadable, Bool.and_eq_true] at hReadable
      have hOp : IsWhole 0 op.symbol.toList :=
        isWhole_of_solid (by cases op <;> decide)
      simp only [phrase, List.forall_mem_cons]
      exact ⟨left.isWhole_sql hReadable.1, hOp,
        right.isWhole_sql hReadable.2, by simp⟩
  | member term values negated =>
      simp only [isReadable, Bool.and_eq_true,
        Bool.not_eq_true'] at hReadable
      have hIn :
          ∀ word ∈ if negated then ["NOT", "IN"] else ["IN"],
            IsWhole 0 word.toList := by
        intro word hMember
        apply isWhole_of_solid
        revert word
        cases negated <;> decide
      simp only [phrase, List.forall_mem_cons,
        List.forall_mem_append]
      exact ⟨term.isWhole_sql hReadable.1, hIn,
        Value.isWhole_sql _ hReadable.2, by simp⟩
  | between term low high =>
      simp only [isReadable, Bool.and_eq_true,
        Bool.not_eq_true'] at hReadable
      simp only [phrase, List.forall_mem_cons]
      exact ⟨term.isWhole_sql hReadable.1.1,
        isWhole_of_solid (by decide),
        low.isWhole_sql hReadable.1.2,
        isWhole_of_solid (by decide),
        high.isWhole_sql hReadable.2, by simp⟩
  | isNull term negated =>
      have hNull :
          ∀ word ∈ if negated then ["IS", "NOT", "NULL"]
              else ["IS", "NULL"],
            IsWhole 0 word.toList := by
        intro word hMember
        apply isWhole_of_solid
        revert word
        cases negated <;> decide
      simp only [phrase, List.forall_mem_cons]
      exact ⟨term.isWhole_sql hReadable, hNull⟩
  | like term pattern =>
      simp only [isReadable, Bool.and_eq_true] at hReadable
      have hEscape : IsWhole 0 "'\\'".toList :=
        isWhole_literal "\\"
      simp only [phrase, List.forall_mem_cons]
      exact ⟨term.isWhole_sql hReadable.1,
        isWhole_of_solid (by decide),
        pattern.isWhole_sql hReadable.2,
        isWhole_of_solid (by decide), hEscape, by simp⟩
  | literal value =>
      simp only [phrase, List.forall_mem_singleton]
      exact isWhole_of_solid (by cases value <;> decide)
  | and left right ihLeft ihRight =>
      simp only [isReadable, Bool.and_eq_true] at hReadable
      simp only [phrase, List.forall_mem_append,
        List.forall_mem_cons]
      exact ⟨isWhole_grouped (ihLeft hReadable.1),
        isWhole_of_solid (by decide),
        isWhole_grouped (ihRight hReadable.2)⟩
  | or left right ihLeft ihRight =>
      simp only [isReadable, Bool.and_eq_true] at hReadable
      simp only [phrase, List.forall_mem_append,
        List.forall_mem_cons]
      exact ⟨isWhole_grouped (ihLeft hReadable.1),
        isWhole_of_solid (by decide),
        isWhole_grouped (ihRight hReadable.2)⟩
  | not inner ih =>
      have hGroup :
          ∀ word ∈ grouped true inner.sql inner.phrase,
            IsWhole 0 word.toList :=
        isWhole_grouped (ih hReadable)
      simp only [phrase, List.forall_mem_cons]
      exact ⟨isWhole_of_solid (by decide),
        hGroup _ (List.mem_singleton_self _), by simp⟩

/- The words of a text are those of its expression. -/
theorem words_sql
    {c : Criterion}
    (hReadable : c.isReadable = true) :
    words c.sql = c.phrase := by
  rw [c.sql_eq_intercalate]
  exact words_intercalate c.phrase_ne_nil
    (isWhole_of_mem_phrase hReadable)

end Criterion

end Relmap
