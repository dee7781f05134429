import Relmap.Double.Rounding
import Relmap.Json.Decoder
import Relmap.Json.Encoder
import Relmap.Json.Printer
import Relmap.Value.Basic
import Relmap.Value.Error

/-
  Literals in documents. A JSON value is read by its own
  type; a document names the type of the literal.

  Key definitions include:
    * `Value.ofJson`
    * `Value.ofDocument?`
    * `Value.toJson`
-/

------------------------------------------------------------
-- JSON Values
------------------------------------------------------------

namespace Relmap

namespace Value

/-
  Whole numbers of sixty-four signed bits stay whole, all
  other numbers become doubles.
-/
def ofNumber : Json.Number → Value
  | .integer n =>
      if -twoTo 63 ≤ n ∧ n < twoTo 63 then
        .int64 (Int64.ofInt n)
      else .float64 (.ofInt n)
  | .double x => .float64 x

mutual

/- The literal of a JSON value. Objects have none. -/
def ofJson : Json → Except ValueError Value
  | .null => .ok .null
  | .bool value => .ok (.bool value)
  | .number value => .ok (ofNumber value)
  | .string text => .ok (.string text)
  | .array items => (ofJsonItems items).map .list
  | .object members =>
      .error (.unsupportedJson
        (Json.compact (.object members)))

/- The literals of the items; the first fault counts. -/
def ofJsonItems :
    List Json → Except ValueError (List Value)
  | [] => .ok []
  | item :: rest => do
      let value ← ofJson item
      let values ← ofJsonItems rest
      return value :: values

end

end Value

end Relmap

------------------------------------------------------------
-- Typed Documents
------------------------------------------------------------

namespace Relmap

namespace Document

/- A number as a double. -/
def double? : Document → Option Double
  | .number (.integer n) => some (.ofInt n)
  | .number (.double x) => some x
  | _ => none

def int32? (document : Document) : Option Int32 :=
  (document.integer? (-twoTo 31) (twoTo 31 - 1)).map Int32.ofInt

def int64? (document : Document) : Option Int64 :=
  (document.integer? (-twoTo 63) (twoTo 63 - 1)).map Int64.ofInt

def uint32? (document : Document) : Option UInt32 :=
  (document.unsigned? 32).map UInt32.ofNat

/- An array of numbers below 256. -/
def bytes? : Document → Option (List UInt8) :=
  list? fun item => (item.unsigned? 8).map UInt8.ofNat

/- An array of exactly sixteen numbers below 256. -/
def uuid? (document : Document) : Option (Vector UInt8 16) := do
  let bytes ← document.bytes?
  if h : bytes.toArray.size = 16 then
    some ⟨bytes.toArray, h⟩
  else none

end Document

namespace Value

/- The literal of a variant with a payload. -/
def ofPayload?
    (items? : Document → Option (List Value))
    (payload : Document) : String → Option Value
  | "Bool" => payload.bool?.map .bool
  | "Int32" => payload.int32?.map .int32
  | "Int64" => payload.int64?.map .int64
  | "Float64" => payload.double?.map .float64
  | "String" => payload.string?.map .string
  | "Bytes" => payload.bytes?.map .bytes
  | "Uuid" => payload.uuid?.map .uuid
  | "List" => (items? payload).map .list
  | _ => none

/- The literal of a document with so many brackets at most. -/
def ofNested? :
    Nat → Document → Option Value
  | height, document => do
      let (name, payload) ← document.variant?
      if name = "Null" then
        if Document.isBare payload then some .null else none
      else
        match height with
        | 0 => none
        | below + 1 =>
            ofPayload? (Document.list? (ofNested? below))
              (← payload) name

/- The literal that a document names. -/
def ofDocument? (document : Document) : Option Value :=
  ofNested? document.height document

end Value

end Relmap

------------------------------------------------------------
-- Documents Of Literals
------------------------------------------------------------

namespace Relmap

namespace Value

mutual

/- The document that names a literal. -/
def toJson : Value → Json
  | .null => .string "Null"
  | .bool value => .variant "Bool" (.bool value)
  | .int32 n => .variant "Int32" (.ofInt n.toInt)
  | .int64 n => .variant "Int64" (.ofInt n.toInt)
  | .float64 x => .variant "Float64" (.ofDouble x)
  | .string text => .variant "String" (.string text)
  | .bytes data => .variant "Bytes" (.ofBytes data)
  | .uuid data => .variant "Uuid" (.ofBytes data.toList)
  | .list items =>
      .variant "List" (.array (toJsonItems items))

def toJsonItems : List Value → List Json
  | [] => []
  | item :: rest => toJson item :: toJsonItems rest

end

end Value

end Relmap
