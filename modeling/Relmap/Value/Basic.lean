import Relmap.Double.Basic

/-
  Typed literals, the operands of comparisons.

  Key definitions include:
    * `Value`
    * `Value.typeName`
    * `Value.equal`
    * `ToValue`
-/

------------------------------------------------------------
-- Literals
------------------------------------------------------------

namespace Relmap

/-
  A literal. Integers keep their width and a list holds the
  candidates or bounds of a comparison.
-/
inductive Value where
  | null
  | bool (value : Bool)
  | int32 (n : Int32)
  | int64 (n : Int64)
  | float64 (x : Double)
  | string (text : String)
  | bytes (data : List UInt8)
  | uuid (data : Vector UInt8 16)
  | list (items : List Value)

instance : Inhabited Value := ⟨.null⟩

namespace Value

def isNull : Value → Bool
  | .null => true
  | _ => false

def isList : Value → Bool
  | .list _ => true
  | _ => false

/- The truth value of a boolean. -/
def bool? : Value → Option Bool
  | .bool value => some value
  | _ => none

/- The number of an integer of either width. -/
def integer? : Value → Option Int64
  | .int32 n => some n.toInt64
  | .int64 n => some n
  | _ => none

/- The text of a string. -/
def string? : Value → Option String
  | .string text => some text
  | _ => none

/- The items of a list. -/
def list? : Value → Option (List Value)
  | .list items => some items
  | _ => none

/- The name of a literal's type in messages. -/
def typeName : Value → String
  | .null => "null"
  | .bool _ => "bool"
  | .int32 _ => "int32"
  | .int64 _ => "int64"
  | .float64 _ => "float64"
  | .string _ => "string"
  | .bytes _ => "bytes"
  | .uuid _ => "uuid"
  | .list _ => "list"

end Value

end Relmap

------------------------------------------------------------
-- Equality
------------------------------------------------------------

namespace Relmap

namespace Value

mutual

/-
  Equality of literals. Types must agree, and doubles are
  compared as numbers, so a NaN makes a literal unequal to
  itself.
-/
def equal : Value → Value → Bool
  | .null, .null => true
  | .bool x, .bool y => x == y
  | .int32 x, .int32 y => x == y
  | .int64 x, .int64 y => x == y
  | .float64 x, .float64 y => x.equal y
  | .string x, .string y => x == y
  | .bytes x, .bytes y => x == y
  | .uuid x, .uuid y => x == y
  | .list xs, .list ys => equalItems xs ys
  | _, _ => false

/- Equality of lists, item by item. -/
def equalItems : List Value → List Value → Bool
  | [], [] => true
  | x :: xs, y :: ys => equal x y && equalItems xs ys
  | _, _ => false

end

end Value

end Relmap

------------------------------------------------------------
-- Conversions
------------------------------------------------------------

namespace Relmap

/- Data that have a literal. -/
class ToValue (α : Type) where
  toValue : α → Value

export ToValue (toValue)

instance : ToValue Value := ⟨id⟩

instance : ToValue Bool := ⟨.bool⟩

instance : ToValue Int32 := ⟨.int32⟩

instance : ToValue Int64 := ⟨.int64⟩

instance : ToValue Double := ⟨.float64⟩

instance : ToValue String := ⟨.string⟩

instance : ToValue (Vector UInt8 16) := ⟨.uuid⟩

/- A list of data becomes a list literal. -/
instance
    {α : Type}
    [ToValue α] : ToValue (List α) :=
  ⟨fun items => .list (items.map toValue)⟩

/- An absent datum becomes null. -/
instance
    {α : Type}
    [ToValue α] : ToValue (Option α) :=
  ⟨fun item => item.elim Value.null toValue⟩

end Relmap
