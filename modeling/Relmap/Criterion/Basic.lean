import Relmap.Criterion.Term

/-
  Boolean expressions over terms, as they stand in WHERE,
  HAVING and join conditions.

  Key definitions include:
    * `CompareOp`
    * `Criterion`
    * `Criterion.hasAggregate`
    * `Term.compare`
-/

------------------------------------------------------------
-- Expressions
------------------------------------------------------------

namespace Relmap

/- Comparison operators. -/
inductive CompareOp where
  | eq
  | ne
  | lt
  | le
  | gt
  | ge
  deriving DecidableEq

namespace CompareOp

/- The sign of the operator in SQL. -/
def symbol : CompareOp → String
  | .eq => "="
  | .ne => "<>"
  | .lt => "<"
  | .le => "<="
  | .gt => ">"
  | .ge => ">="

end CompareOp

/-
  A boolean expression. Bounds of a range are inclusive, and
  a backslash escapes the next character of a pattern.
-/
inductive Criterion where
  | compare
      (left : Term)
      (op : CompareOp)
      (right : Term)
  | member
      (term : Term)
      (values : List Value)
      (negated : Bool)
  | between
      (term : Term)
      (low : Value)
      (high : Value)
  | isNull
      (term : Term)
      (negated : Bool)
  | like
      (term : Term)
      (pattern : Term)
  | literal (value : Bool)
  | and (left : Criterion) (right : Criterion)
  | or (left : Criterion) (right : Criterion)
  | not (inner : Criterion)

namespace Criterion

/- Some operand of the expression is an aggregate. -/
def hasAggregate : Criterion → Bool
  | .compare left _ right =>
      left.isAggregate || right.isAggregate
  | .member term _ _ => term.isAggregate
  | .between term _ _ => term.isAggregate
  | .isNull term _ => term.isAggregate
  | .like term pattern =>
      term.isAggregate || pattern.isAggregate
  | .literal _ => false
  | .and left right =>
      left.hasAggregate || right.hasAggregate
  | .or left right =>
      left.hasAggregate || right.hasAggregate
  | .not inner => inner.hasAggregate

end Criterion

end Relmap

------------------------------------------------------------
-- Comparisons
------------------------------------------------------------

namespace Relmap

namespace Term

/- Compare a term with a literal. -/
def compare
    (term : Term)
    (op : CompareOp)
    (value : Value) : Criterion :=
  .compare term op (.value value)

/- The term equals a literal. -/
def eq
    (term : Term)
    (value : Value) : Criterion :=
  term.compare .eq value

/- The term differs from a literal. -/
def ne
    (term : Term)
    (value : Value) : Criterion :=
  term.compare .ne value

/- Two terms are equal. -/
def eqTerm
    (term : Term)
    (other : Term) : Criterion :=
  .compare term .eq other

/- The term is one of the candidates. -/
def isIn
    (term : Term)
    (values : List Value) : Criterion :=
  .member term values false

/- The term is none of the candidates. -/
def notIn
    (term : Term)
    (values : List Value) : Criterion :=
  .member term values true

/- The term lies within two bounds. -/
def between
    (term : Term)
    (low : Value)
    (high : Value) : Criterion :=
  .between term low high

/- The term is null. -/
def isNull (term : Term) : Criterion :=
  .isNull term false

/- The term is not null. -/
def notNull (term : Term) : Criterion :=
  .isNull term true

/- The term matches a pattern. -/
def like
    (term : Term)
    (pattern : Term) : Criterion :=
  .like term pattern

end Term

end Relmap
