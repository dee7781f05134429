import Relmap.Criterion.Text

/-
  The boolean shape of an expression: its comparisons under
  AND, OR and NOT, where one AND stands for a whole chain of
  them and one OR likewise.

  Main declarations:
    * `Connective`
    * `Criterion.Shape`
    * `Criterion.flatten`
    * `Criterion.operands`
    * `Connective.chain_induction`
    * `Criterion.flatten_eq_ofParts`
-/

------------------------------------------------------------
-- Shapes
------------------------------------------------------------

namespace Relmap

/- What joins two expressions. -/
inductive Connective where
  | and
  | or
  deriving DecidableEq

namespace Connective

/- The word of the connective in SQL. -/
def word : Connective → String
  | .and => "AND"
  | .or => "OR"

/- The other connective. -/
def other : Connective → Connective
  | .and => .or
  | .or => .and

/- The expression is a chain of the connective. -/
def joins
    (connective : Connective)
    (c : Criterion) : Bool :=
  match connective with
  | .and => c.isAnd
  | .or => c.isOr

/- Two expressions joined by the connective. -/
def join
    (connective : Connective)
    (left : Criterion)
    (right : Criterion) : Criterion :=
  match connective with
  | .and => .and left right
  | .or => .or left right

end Connective

namespace Criterion

/-
  An expression up to the grouping of its chains. A leaf is
  the text of a comparison.
-/
inductive Shape where
  | leaf (text : String)
  | chain (connective : Connective) (parts : List Shape)
  | not (inner : Shape)

namespace Shape

/- What a shape adds to a chain of the connective. -/
def parts
    (connective : Connective) : Shape → List Shape
  | .chain own parts =>
      if own = connective then parts else [.chain own parts]
  | shape => [shape]

/- The chain of shapes; a single one is its own chain. -/
def ofParts
    (connective : Connective) : List Shape → Shape
  | [shape] => shape
  | parts => .chain connective parts

/- Two rows of shapes are more than a single shape. -/
theorem ofParts_append
    {connective : Connective}
    {left right : List Shape}
    (hLeft : left ≠ [])
    (hRight : right ≠ []) :
    ofParts connective (left ++ right) =
      .chain connective (left ++ right) := by
  rcases List.exists_cons_of_ne_nil hLeft with
    ⟨first, left, rfl⟩
  cases left with
  | nil =>
      rcases List.exists_cons_of_ne_nil hRight with
        ⟨second, right, rfl⟩
      rfl
  | cons second left => rfl

end Shape

/-
  The shape of an expression: an AND below an AND joins the
  chain above it, and an OR below an OR likewise.
-/
def flatten : Criterion → Shape
  | .and left right =>
      .chain .and
        (left.flatten.parts .and ++ right.flatten.parts .and)
  | .or left right =>
      .chain .or
        (left.flatten.parts .or ++ right.flatten.parts .or)
  | .not inner => .not inner.flatten
  | comparison => .leaf comparison.sql

end Criterion

end Relmap

------------------------------------------------------------
-- Operands Of A Chain
------------------------------------------------------------

namespace Relmap

namespace Criterion

/- The operands of a chain of the connective, in order. -/
def operands
    (connective : Connective) : Criterion → List Criterion
  | .and left right =>
      if connective = .and then
        left.operands connective ++ right.operands connective
      else [.and left right]
  | .or left right =>
      if connective = .or then
        left.operands connective ++ right.operands connective
      else [.or left right]
  | c => [c]

end Criterion

namespace Connective

variable (connective : Connective)

/-
  An induction along the chains of one connective: what is
  no chain of it is a single operand.
-/
theorem chain_induction
    {motive : Criterion → Prop}
    (chain :
      ∀ left right, motive left → motive right →
        motive (connective.join left right))
    (single :
      ∀ c, connective.joins c = false → motive c)
    (c : Criterion) :
    motive c := by
  induction c with
  | and left right ihLeft ihRight =>
      cases connective with
      | and => exact chain left right ihLeft ihRight
      | or => exact single _ rfl
  | or left right ihLeft ihRight =>
      cases connective with
      | and => exact single _ rfl
      | or => exact chain left right ihLeft ihRight
  | _ => exact single _ (by cases connective <;> rfl)

/- A chain consists of the operands of both its sides. -/
@[simp] theorem operands_join
    (left right : Criterion) :
    (connective.join left right).operands connective =
      left.operands connective ++
        right.operands connective := by
  cases connective <;> rfl

@[simp] theorem flatten_join
    (left right : Criterion) :
    (connective.join left right).flatten =
      .chain connective
        (left.flatten.parts connective ++
          right.flatten.parts connective) := by
  cases connective <;> rfl

end Connective

namespace Criterion

variable {connective : Connective}

/- What is no chain is its own only operand. -/
theorem operands_of_not_joins
    {c : Criterion}
    (hJoins : connective.joins c = false) :
    c.operands connective = [c] := by
  cases connective <;> cases c <;>
    first
      | rfl
      | simp [Connective.joins, isAnd, isOr] at hJoins

/- No operand of a chain is a chain of the same kind. -/
theorem not_joins_of_mem_operands
    {c operand : Criterion}
    (hMember : operand ∈ c.operands connective) :
    connective.joins operand = false := by
  induction c using connective.chain_induction with
  | chain left right ihLeft ihRight =>
      rw [Connective.operands_join, List.mem_append]
        at hMember
      exact hMember.elim ihLeft ihRight
  | single c hJoins =>
      rw [operands_of_not_joins hJoins, List.mem_singleton]
        at hMember
      rw [hMember]
      exact hJoins

/- There is always an operand. -/
theorem operands_ne_nil (c : Criterion) :
    c.operands connective ≠ [] := by
  induction c using connective.chain_induction with
  | chain left right ihLeft _ =>
      rw [Connective.operands_join]
      exact List.append_ne_nil_of_left_ne_nil ihLeft _
  | single c hJoins =>
      rw [operands_of_not_joins hJoins]
      exact List.cons_ne_nil c []

/- The parts of a shape are the shapes of the operands. -/
theorem parts_flatten (c : Criterion) :
    c.flatten.parts connective =
      (c.operands connective).map flatten := by
  induction c using connective.chain_induction with
  | chain left right ihLeft ihRight =>
      rw [Connective.flatten_join, Connective.operands_join,
        List.map_append, ← ihLeft, ← ihRight, Shape.parts,
        if_pos rfl]
  | single c hJoins =>
      rw [operands_of_not_joins hJoins]
      cases connective <;> cases c <;>
        first
          | rfl
          | simp [Connective.joins, isAnd, isOr] at hJoins

/- A shape is the chain of the shapes of its operands. -/
theorem flatten_eq_ofParts (c : Criterion) :
    c.flatten =
      .ofParts connective
        ((c.operands connective).map flatten) := by
  induction c using connective.chain_induction with
  | chain left right _ _ =>
      have hShapes (side : Criterion) :
          (side.operands connective).map flatten ≠ [] := by
        rw [ne_eq, List.map_eq_nil_iff]
        exact operands_ne_nil side
      rw [Connective.flatten_join, Connective.operands_join,
        parts_flatten, parts_flatten, List.map_append,
        Shape.ofParts_append (hShapes left) (hShapes right)]
  | single c hJoins =>
      rw [operands_of_not_joins hJoins]
      rfl

end Criterion

end Relmap
