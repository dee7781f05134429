import Relmap.Value.Basic

/-
  Operands of comparisons: columns, literals, aggregates and
  uppercased operands.

  Key definitions include:
    * `Column`
    * `AggregateFunction`
    * `Term`
    * `Term.isAggregate`
-/

------------------------------------------------------------
-- Columns
------------------------------------------------------------

namespace Relmap

/- A column, of a named table if it is qualified. -/
structure Column where
  table : Option String
  name : String
  deriving DecidableEq

end Relmap

------------------------------------------------------------
-- Aggregate Functions
------------------------------------------------------------

namespace Relmap

inductive AggregateFunction where
  | count
  | sum
  | avg
  | min
  | max
  deriving DecidableEq

namespace AggregateFunction

/- The name of the function in SQL. -/
def sqlName : AggregateFunction → String
  | .count => "COUNT"
  | .sum => "SUM"
  | .avg => "AVG"
  | .min => "MIN"
  | .max => "MAX"

end AggregateFunction

end Relmap

------------------------------------------------------------
-- Terms
------------------------------------------------------------

namespace Relmap

/- An operand. An aggregate without argument is over `*`. -/
inductive Term where
  | column (column : Column)
  | value (value : Value)
  | aggregate
      (function : AggregateFunction)
      (argument : Option Term)
      (distinct : Bool)
  | upper (term : Term)

namespace Term

/- A column of a table. -/
def qualified
    (table : String)
    (name : String) : Term :=
  .column ⟨some table, name⟩

/- A column without its table. -/
def bare (name : String) : Term :=
  .column ⟨none, name⟩

/- The term has to be evaluated over a group of rows. -/
def isAggregate : Term → Bool
  | .aggregate _ _ _ => true
  | .upper term => term.isAggregate
  | .column _ => false
  | .value _ => false

end Term

end Relmap
