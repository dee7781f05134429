import Relmap.Decimal.Layout
import Relmap.Json.Basic
import Relmap.Text.Hex

/-
  Compact JSON text: no blanks, members in order, and only
  quotes, backslashes and control characters escaped.

  Key definitions include:
    * `Json.escape`
    * `Json.quote`
    * `Json.layout`
    * `Json.compact`
-/

------------------------------------------------------------
-- Strings And Numbers
------------------------------------------------------------

namespace Relmap

namespace Json

/- A character inside a quoted string. -/
def escapeChar (c : Char) : List Char :=
  if c = '"' then ['\\', '"']
  else if c = '\\' then ['\\', '\\']
  else if c = '\x08' then ['\\', 'b']
  else if c = '\t' then ['\\', 't']
  else if c = '\n' then ['\\', 'n']
  else if c = '\x0c' then ['\\', 'f']
  else if c = '\r' then ['\\', 'r']
  else if c.toNat < 0x20 then
    ['\\', 'u', '0', '0', Hex.digit (c.toNat / 16),
      Hex.digit (c.toNat % 16)]
  else [c]

/- A text as the inside of a quoted string. -/
def escape (text : List Char) : List Char :=
  text.flatMap escapeChar

/- A text as a quoted string. -/
def quote (text : String) : String :=
  "\"" ++ String.ofList (escape text.toList) ++ "\""

/-
  Numbers are written with a decimal point or an exponent
  if they are doubles. An exponent is written below 1e-5 and
  from 1e16 on, and of two equally near decimals the even
  one.
-/
def layout : Decimal.Layout :=
  ⟨.toEven, ".0", some (-5, 15)⟩

/- A number as text. -/
def Number.text : Number → String
  | .integer n => Decimal.ofInt n
  | .double x => layout.write x

end Json

end Relmap

------------------------------------------------------------
-- Compact Text
------------------------------------------------------------

namespace Relmap

namespace Json

mutual

/- A value as compact text. -/
def compact : Json → String
  | .null => "null"
  | .bool value => if value then "true" else "false"
  | .number value => value.text
  | .string text => quote text
  | .array items => "[" ++ compactItems items ++ "]"
  | .object members =>
      "\x7b" ++ compactMembers members ++ "\x7d"

/- Items with commas between them. -/
def compactItems : List Json → String
  | [] => ""
  | [item] => compact item
  | item :: rest => compact item ++ "," ++ compactItems rest

/- Members with commas between them. -/
def compactMembers : List (String × Json) → String
  | [] => ""
  | [(name, value)] => quote name ++ ":" ++ compact value
  | (name, value) :: rest =>
      quote name ++ ":" ++ compact value ++ "," ++
        compactMembers rest

end

end Json

end Relmap
