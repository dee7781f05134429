import Relmap.Proofs.Criterion.Shape

/-
  The text of a shape.

  Text does not tell how a chain is grouped, so the text of
  an expression is told by its shape alone. Joining shapes
  is associative where joining expressions is not.

  Main declarations:
    * `Criterion.Shape.join`
    * `Criterion.Shape.join_assoc`
    * `Criterion.Shape.sql`
    * `Criterion.sql_flatten`
-/

------------------------------------------------------------
-- Chains Of Shapes
------------------------------------------------------------

namespace Relmap

namespace Criterion

namespace Shape

/- Two shapes as one chain of the connective. -/
def join
    (connective : Connective)
    (left : Shape)
    (right : Shape) : Shape :=
  .chain connective
    (left.parts connective ++ right.parts connective)

variable {connective : Connective}

/- What a chain adds to a chain of its kind is its parts. -/
@[simp] theorem parts_join (left right : Shape) :
    (join connective left right).parts connective =
      left.parts connective ++ right.parts connective :=
  if_pos rfl

/- A chain of three has one shape. -/
theorem join_assoc (first second third : Shape) :
    join connective (join connective first second) third =
      join connective first
        (join connective second third) := by
  have hParts :
      (join connective first second).parts connective ++
          third.parts connective =
        first.parts connective ++
          (join connective second third).parts connective := by
    rw [parts_join, parts_join, List.append_assoc]
  exact congrArg (Shape.chain connective) hParts

instance : Std.Associative (join connective) :=
  ⟨join_assoc⟩

end Shape

end Criterion

end Relmap

------------------------------------------------------------
-- Shapes As Text
------------------------------------------------------------

namespace Relmap

/- The text between two operands of a chain. -/
def Connective.separator : Connective → String
  | .and => " AND "
  | .or => " OR "

namespace Criterion

namespace Shape

/- The shape is a chain of the connective. -/
def isChain (connective : Connective) : Shape → Bool
  | .chain own _ => own = connective
  | _ => false

mutual

/- A shape as text, without any grouping within a chain. -/
def sql : Shape → String
  | .leaf text => text
  | .chain connective parts =>
      connective.separator.intercalate
        (operandTexts connective parts)
  | .not inner => "NOT (" ++ inner.sql ++ ")"

/-
  Operands of a chain as text, those that are chains of the
  other connective in parentheses.
-/
def operandTexts
    (connective : Connective) : List Shape → List String
  | [] => []
  | shape :: shapes =>
      parenthesize (shape.isChain connective.other)
          shape.sql ::
        operandTexts connective shapes

end

/- A shape as an operand of a chain of the connective. -/
def operandText
    (connective : Connective)
    (shape : Shape) : String :=
  parenthesize (shape.isChain connective.other) shape.sql

variable {connective : Connective}

theorem operandTexts_eq_map (shapes : List Shape) :
    operandTexts connective shapes =
      shapes.map (operandText connective) := by
  induction shapes with
  | nil => rfl
  | cons shape shapes ih =>
      rw [operandTexts, List.map_cons, ih, operandText]

/- The parts of a shape, as text, are one operand. -/
theorem intercalate_parts (shape : Shape) :
    connective.separator.intercalate
        ((shape.parts connective).map
          (operandText connective)) =
      shape.operandText connective := by
  cases shape with
  | chain own parts =>
      by_cases hOwn : own = connective
      · subst hOwn
        have hOther : own.other ≠ own := by
          cases own <;> decide
        rw [Shape.parts, if_pos rfl, operandText, isChain,
          decide_eq_false hOther.symm, parenthesize, sql,
          operandTexts_eq_map]
        rfl
      · rw [Shape.parts, if_neg hOwn, List.map_singleton,
          String.intercalate_singleton]
  | _ => exact String.intercalate_singleton

/- A chain of two shapes that are not without parts. -/
theorem sql_join
    {left right : Shape}
    (hLeft : left.parts connective ≠ [])
    (hRight : right.parts connective ≠ []) :
    (join connective left right).sql =
      left.operandText connective ++ connective.separator ++
        right.operandText connective := by
  rw [join, sql, operandTexts_eq_map, List.map_append,
    String.intercalate_append_of_ne_nil
      (mt List.map_eq_nil_iff.mp hLeft)
      (mt List.map_eq_nil_iff.mp hRight),
    intercalate_parts, intercalate_parts]

end Shape

end Criterion

end Relmap

------------------------------------------------------------
-- Expressions As Text
------------------------------------------------------------

namespace Relmap

namespace Criterion

variable {connective : Connective}
variable {left right : Criterion}

/- The shape of an expression is not without parts. -/
theorem parts_flatten_ne_nil (c : Criterion) :
    c.flatten.parts connective ≠ [] := by
  rw [parts_flatten]
  exact mt List.map_eq_nil_iff.mp c.operands_ne_nil

/- It is a chain exactly if the expression is one. -/
@[simp] theorem isChain_flatten (c : Criterion) :
    c.flatten.isChain connective = connective.joins c := by
  cases connective <;> cases c <;> rfl

/- An expression of two, each in parentheses if need be. -/
theorem sql_join :
    (connective.join left right).sql =
      parenthesize (connective.other.joins left) left.sql ++
          connective.separator ++
        parenthesize (connective.other.joins right)
          right.sql := by
  cases connective <;> rfl

/- Where it is so for both sides the shape has the text. -/
theorem sql_flatten_join
    (connective : Connective)
    (hLeft : left.flatten.sql = left.sql)
    (hRight : right.flatten.sql = right.sql) :
    (connective.join left right).flatten.sql =
      (connective.join left right).sql := by
  rw [Connective.flatten_join, ← Shape.join,
    Shape.sql_join left.parts_flatten_ne_nil
      right.parts_flatten_ne_nil,
    Shape.operandText, Shape.operandText, isChain_flatten,
    isChain_flatten, hLeft, hRight, sql_join]

/- The text of an expression is the text of its shape. -/
theorem sql_flatten (c : Criterion) :
    c.flatten.sql = c.sql := by
  induction c with
  | and left right ihLeft ihRight =>
      exact sql_flatten_join .and ihLeft ihRight
  | or left right ihLeft ihRight =>
      exact sql_flatten_join .or ihLeft ihRight
  | not inner ih => rw [flatten, Shape.sql, ih, sql]
  | _ => rfl

end Criterion

end Relmap
