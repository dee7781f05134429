import Relmap.Double.Basic

/-
  JSON values. Objects keep the order of their members and
  hold every name once.

  Key definitions include:
    * `Json.Number`
    * `Json`
    * `Json.member?`
    * `Json.setMember`
-/

------------------------------------------------------------
-- Values
------------------------------------------------------------

namespace Relmap

/-
  A number is a whole number of at most sixty-four bits or a
  double.
-/
inductive Json.Number where
  | integer (n : Int)
  | double (x : Double)
  deriving DecidableEq

inductive Json where
  | null
  | bool (value : Bool)
  | number (value : Json.Number)
  | string (text : String)
  | array (items : List Json)
  | object (members : List (String × Json))

instance : Inhabited Json := ⟨.null⟩

end Relmap

------------------------------------------------------------
-- Members
------------------------------------------------------------

namespace Relmap

namespace Json

/- The value of a named member of an object. -/
def member?
    (name : String) :
    List (String × Json) → Option Json
  | [] => none
  | (key, value) :: rest =>
      if key = name then some value else member? name rest

/-
  Give a member a value: in its place if the name is known,
  at the end otherwise.
-/
def setMember
    (name : String)
    (value : Json) :
    List (String × Json) → List (String × Json)
  | [] => [(name, value)]
  | (key, old) :: rest =>
      if key = name then (key, value) :: rest
      else (key, old) :: setMember name value rest

end Json

end Relmap
