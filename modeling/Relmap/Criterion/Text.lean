import Relmap.Criterion.Basic
import Relmap.Value.Text

/-
  Terms and boolean expressions as SQL text with inline
  literals.

  Parentheses stand around an AND below an OR, around an OR
  below an AND, and after every NOT; nested operators of one
  kind need none, since grouping them does not matter.

  Key definitions include:
    * `Column.sql`
    * `Term.sql`
    * `Criterion.sql`
-/

------------------------------------------------------------
-- Terms
------------------------------------------------------------

namespace Relmap

/- A column as quoted names. -/
def Column.sql (column : Column) : String :=
  match column.table with
  | some table =>
      "\"" ++ table ++ "\".\"" ++ column.name ++ "\""
  | none => "\"" ++ column.name ++ "\""

/- A term as text. -/
def Term.sql : Term → String
  | .column source => source.sql
  | .value literal => literal.sql
  | .aggregate function argument distinct =>
      function.sqlName ++ "(" ++
        (if distinct then "DISTINCT " else "") ++
        (match argument with
          | some inner => Term.sql inner
          | none => "*") ++ ")"
  | .upper inner => "UPPER(" ++ inner.sql ++ ")"

end Relmap

------------------------------------------------------------
-- Expressions
------------------------------------------------------------

namespace Relmap

namespace Criterion

/- The expression is a conjunction. -/
def isAnd : Criterion → Bool
  | .and _ _ => true
  | _ => false

/- The expression is a disjunction. -/
def isOr : Criterion → Bool
  | .or _ _ => true
  | _ => false

/- Put parentheses around a text if they are needed. -/
def parenthesize
    (needed : Bool)
    (text : String) : String :=
  if needed then "(" ++ text ++ ")" else text

/- An expression as text. -/
def sql : Criterion → String
  | .compare left op right =>
      left.sql ++ " " ++ op.symbol ++ " " ++ right.sql
  | .member term values negated =>
      term.sql ++ (if negated then " NOT IN " else " IN ") ++
        (Value.list values).sql
  | .between term low high =>
      term.sql ++ " BETWEEN " ++ low.sql ++ " AND " ++
        high.sql
  | .isNull term negated =>
      term.sql ++
        (if negated then " IS NOT NULL" else " IS NULL")
  | .like term pattern =>
      term.sql ++ " LIKE " ++ pattern.sql ++ " ESCAPE '\\'"
  | .literal value => if value then "1=1" else "1=0"
  | .and left right =>
      parenthesize left.isOr left.sql ++ " AND " ++
        parenthesize right.isOr right.sql
  | .or left right =>
      parenthesize left.isAnd left.sql ++ " OR " ++
        parenthesize right.isAnd right.sql
  | .not inner => "NOT (" ++ inner.sql ++ ")"

end Criterion

end Relmap
