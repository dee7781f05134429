import Relmap.Query.FilterValue

/-
  Filter trees: boolean combinations of constraints.

  A constraint pairs a filter key with a right-hand side. A
  node has children or constraints of its own, which combine
  by its join type, and it may be negated. A node that is
  given both keeps the constraints in a leading child, which
  it is said to wrap.

  Key definitions include:
    * `JoinType`
    * `FilterTree`
    * `FilterTree.ofParts`
    * `FilterTree.addConstraint`
    * `FilterTree.withJoinType`
    * `FilterTree.negate`
    * `FilterTree.equal`
-/

------------------------------------------------------------
-- Join Types
------------------------------------------------------------

namespace Relmap

/- How the parts of a node combine. -/
inductive JoinType where
  | and
  | or
  deriving DecidableEq

namespace JoinType

/- The join type as a keyword. -/
def text : JoinType → String
  | .and => "AND"
  | .or => "OR"

/- The join type of a keyword. -/
def ofText (text : String) : Except Error JoinType :=
  if text = "AND" then .ok .and
  else if text = "OR" then .ok .or
  else .error .badJoinType

end JoinType

end Relmap

------------------------------------------------------------
-- Trees
------------------------------------------------------------

namespace Relmap

/- A filter key and its right-hand side. -/
abbrev Constraint := String × FilterValue

/-
  A node. The flag `wraps` says that the first child holds
  the constraints that belong to the node itself.
-/
structure FilterTree where
  children : List FilterTree
  constraints : List Constraint
  joinType : JoinType
  negated : Bool
  wraps : Bool

namespace FilterTree

/- A node without children. -/
def leaf
    (joinType : JoinType)
    (constraints : List Constraint) : FilterTree :=
  ⟨[], constraints, joinType, false, false⟩

instance : Inhabited FilterTree := ⟨leaf .and []⟩

/-
  A node of children and constraints. If there are both, the
  constraints go into a leading child of the same join type.
-/
def ofParts
    (children : List FilterTree)
    (joinType : JoinType)
    (constraints : List Constraint) : FilterTree :=
  if children.isEmpty || constraints.isEmpty then
    ⟨children, constraints, joinType, false, false⟩
  else
    ⟨leaf joinType constraints :: children, [], joinType,
      false, true⟩

/- A leaf of one constraint. -/
def constraint
    (key : String)
    (value : FilterValue) : FilterTree :=
  leaf .and [(key, value)]

/- Append a constraint to those held by the node itself. -/
private def pushConstraint
    (tree : FilterTree)
    (entry : Constraint) : FilterTree :=
  { tree with constraints := tree.constraints ++ [entry] }

/-
  Add a constraint to a node. A node with children keeps it
  in its leading child, which is made if there is none yet.
-/
def addConstraint
    (tree : FilterTree)
    (key : String)
    (value : FilterValue) : FilterTree :=
  match tree.children with
  | [] => pushConstraint tree (key, value)
  | first :: rest =>
      if tree.wraps then
        { tree with
          children :=
            pushConstraint first (key, value) :: rest }
      else
        { tree with
          children :=
            leaf tree.joinType [(key, value)] :: first :: rest
          wraps := true }

/-
  Set the join type of a node and of the leading child that
  it wraps.
-/
def withJoinType
    (tree : FilterTree)
    (joinType : JoinType) : FilterTree :=
  match tree.wraps, tree.children with
  | true, first :: rest =>
      { tree with
        joinType := joinType
        children :=
          { first with joinType := joinType } :: rest }
  | _, _ => { tree with joinType := joinType }

/- All of some trees. -/
def all (children : List FilterTree) : FilterTree :=
  ofParts children .and []

/- Any of some trees. -/
def any (children : List FilterTree) : FilterTree :=
  ofParts children .or []

/- Both trees. -/
def and
    (left : FilterTree)
    (right : FilterTree) : FilterTree :=
  all [left, right]

/- Either tree. -/
def or
    (left : FilterTree)
    (right : FilterTree) : FilterTree :=
  any [left, right]

/- Flip the negation of a node. -/
def negate (tree : FilterTree) : FilterTree :=
  { tree with negated := !tree.negated }

end FilterTree

end Relmap

------------------------------------------------------------
-- Equality
------------------------------------------------------------

namespace Relmap

namespace FilterTree

/- Equality of constraints in order. -/
def equalConstraints :
    List Constraint → List Constraint → Bool
  | [], [] => true
  | (k, x) :: xs, (l, y) :: ys =>
      k == l && x.equal y && equalConstraints xs ys
  | _, _ => false

mutual

/-
  Equality of trees in all their parts, with literals
  compared as literals are.
-/
def equal : FilterTree → FilterTree → Bool
  | ⟨children₁, constraints₁, join₁, negated₁, wraps₁⟩,
    ⟨children₂, constraints₂, join₂, negated₂, wraps₂⟩ =>
      equalChildren children₁ children₂ &&
        equalConstraints constraints₁ constraints₂ &&
        join₁ == join₂ && negated₁ == negated₂ &&
        wraps₁ == wraps₂

def equalChildren :
    List FilterTree → List FilterTree → Bool
  | [], [] => true
  | x :: xs, y :: ys => equal x y && equalChildren xs ys
  | _, _ => false

end

end FilterTree

end Relmap
