import Relmap.Json.Reader
import Relmap.Query.FilterTree

/-
  Filter trees as JSON.

  A node is an object with a join type, children and
  constraints, all of which may be missing. Constraints keep
  their order. A node is negated only by the value `true`.

  Key definitions include:
    * `FilterTree.joinTypeOf`
    * `FilterTree.constraintsOf`
    * `FilterTree.ofJson`
    * `FilterTree.read`
-/

------------------------------------------------------------
-- Members Of A Node
------------------------------------------------------------

namespace Relmap

namespace FilterTree

/- The join type that a node is given. -/
def joinTypeOf
    (members : List (String × Json)) :
    Except Error JoinType :=
  match Json.member? "join_type" members with
  | none => .ok .and
  | some (.string text) => JoinType.ofText text
  | some _ => .error .badJoinType

/- The constraints of the members of an object, in order. -/
def constraintsOfMembers :
    List (String × Json) → Except Error (List Constraint)
  | [] => .ok []
  | (key, json) :: rest => do
      let value ← FilterValue.ofJson json
      let others ← constraintsOfMembers rest
      return (key, value) :: others

/- The constraints that a node is given. -/
def constraintsOf
    (members : List (String × Json)) :
    Except Error (List Constraint) :=
  match Json.member? "filters" members with
  | none => .ok []
  | some (.object entries) => constraintsOfMembers entries
  | some other => .error (.constraintsExpected other.compact)

/- Whether a node is negated. -/
def negatedOf (members : List (String × Json)) : Bool :=
  match Json.member? "negated" members with
  | some (.bool value) => value
  | _ => false

end FilterTree

end Relmap

------------------------------------------------------------
-- Nodes
------------------------------------------------------------

namespace Relmap

namespace FilterTree

mutual

/-
  The tree that a JSON value writes. Of several faults the
  join type comes first, then the children, then the
  constraints.
-/
def ofJson : Json → Except Error FilterTree
  | .object members => do
      let joinType ← joinTypeOf members
      let children ← childrenOfMembers members
      let constraints ← constraintsOf members
      let node := ofParts children joinType constraints
      return { node with negated := negatedOf members }
  | _ => .error .childrenNotNodes

/- The children that a node is given. -/
def childrenOfMembers :
    List (String × Json) → Except Error (List FilterTree)
  | [] => .ok []
  | (name, json) :: rest =>
      if name = "children" then childrenOfJson json
      else childrenOfMembers rest

/- The nodes of an array. -/
def childrenOfJson :
    Json → Except Error (List FilterTree)
  | .array items => ofJsonItems items
  | _ => .error .childrenNotNodes

def ofJsonItems :
    List Json → Except Error (List FilterTree)
  | [] => .ok []
  | item :: rest => do
      let tree ← ofJson item
      let trees ← ofJsonItems rest
      return tree :: trees

end

/- The tree that JSON text writes. -/
def read (text : String) : Except Error FilterTree :=
  match Json.read? text with
  | some json => ofJson json
  | none => .error .malformedDocument

end FilterTree

end Relmap
