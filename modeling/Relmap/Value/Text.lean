import Relmap.Decimal.Layout
import Relmap.Text.Escape
import Relmap.Text.Hex
import Relmap.Value.Basic

/-
  Literals as SQL text, and as plain text without quotes.

  Key definitions include:
    * `Value.layout`
    * `Value.uuidText`
    * `Value.sql`
    * `Value.plain`
-/

------------------------------------------------------------
-- Parts
------------------------------------------------------------

namespace Relmap

namespace Value

/-
  Doubles are written without an exponent and without a
  point if they are whole; of two equally near decimals the
  one away from zero is written.
-/
def layout : Decimal.Layout :=
  ⟨.up, "", none⟩

/-
  Sixteen bytes in five groups of 4, 2, 2, 2 and 6 bytes
  with hyphens between them.
-/
def uuidText (data : Vector UInt8 16) : String :=
  let bytes := data.toList
  let group (start count : Nat) : String :=
    Hex.ofBytes ((bytes.drop start).take count)
  group 0 4 ++ "-" ++ group 4 2 ++ "-" ++ group 6 2 ++
    "-" ++ group 8 2 ++ "-" ++ group 10 6

end Value

end Relmap

------------------------------------------------------------
-- Text Of Literals
------------------------------------------------------------

namespace Relmap

namespace Value

mutual

/-
  A literal as SQL text. Strings and identifiers of sixteen
  bytes are quoted, byte strings are hexadecimal, and lists
  stand in parentheses.
-/
def sql : Value → String
  | .null => "NULL"
  | .bool value => if value then "true" else "false"
  | .int32 n => Decimal.ofInt n.toInt
  | .int64 n => Decimal.ofInt n.toInt
  | .float64 x => layout.write x
  | .string text => Text.quoted text
  | .bytes data => "X'" ++ Hex.ofBytes data ++ "'"
  | .uuid data => "'" ++ uuidText data ++ "'"
  | .list items => "(" ++ sqlItems items ++ ")"

/- Items with commas between them. -/
def sqlItems : List Value → String
  | [] => ""
  | [item] => sql item
  | item :: rest => sql item ++ "," ++ sqlItems rest

end

/-
  A literal as it is spliced into a pattern: the bare text
  of strings, identifiers and bytes, and otherwise the SQL
  text.
-/
def plain : Value → String
  | .string text => text
  | .uuid data => uuidText data
  | .bytes data => Hex.ofBytes data
  | value => value.sql

end Value

end Relmap
