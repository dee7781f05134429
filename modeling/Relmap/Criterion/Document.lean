import Relmap.Criterion.Basic
import Relmap.Json.Reader
import Relmap.Value.Document

/-
  Terms and boolean expressions as documents.

  Every node is a variant whose payload is a record. In text
  the members of such a record may be written in order; a
  JSON value has to name them.

  Key definitions include:
    * `Criterion.toJson`
    * `Criterion.ofJson?`
    * `Criterion.read?`
-/

------------------------------------------------------------
-- Writing
------------------------------------------------------------

namespace Relmap

/- The names of the aggregate functions in documents. -/
def AggregateFunction.names :
    List (String × AggregateFunction) :=
  [("Count", .count), ("Sum", .sum), ("Avg", .avg),
    ("Min", .min), ("Max", .max)]

def AggregateFunction.name : AggregateFunction → String
  | .count => "Count"
  | .sum => "Sum"
  | .avg => "Avg"
  | .min => "Min"
  | .max => "Max"

/- The names of the comparison operators in documents. -/
def CompareOp.names : List (String × CompareOp) :=
  [("Eq", .eq), ("Ne", .ne), ("Lt", .lt), ("Le", .le),
    ("Gt", .gt), ("Ge", .ge)]

def CompareOp.name : CompareOp → String
  | .eq => "Eq"
  | .ne => "Ne"
  | .lt => "Lt"
  | .le => "Le"
  | .gt => "Gt"
  | .ge => "Ge"

def Column.toJson (source : Column) : Json :=
  .object [("table", .ofOption .string source.table),
    ("name", .string source.name)]

/- The document of a term. -/
def Term.toJson : Term → Json
  | .column source => .variant "Column" source.toJson
  | .value literal => .variant "Value" literal.toJson
  | .aggregate function argument distinct =>
      .variant "Aggregate" (.object [
        ("function", .string function.name),
        ("argument",
          match argument with
          | some inner => Term.toJson inner
          | none => .null),
        ("distinct", .bool distinct)])
  | .upper inner => .variant "Upper" inner.toJson

/- The document of an expression. -/
def Criterion.toJson : Criterion → Json
  | .compare left op right =>
      .variant "Compare" (.object [
        ("left", left.toJson),
        ("op", .string op.name),
        ("right", right.toJson)])
  | .member term values negated =>
      .variant "In" (.object [
        ("term", term.toJson),
        ("values", .array (values.map Value.toJson)),
        ("negated", .bool negated)])
  | .between term low high =>
      .variant "Between" (.object [
        ("term", term.toJson),
        ("low", low.toJson),
        ("high", high.toJson)])
  | .isNull term negated =>
      .variant "IsNull" (.object [
        ("term", term.toJson),
        ("negated", .bool negated)])
  | .like term pattern =>
      .variant "Like" (.object [
        ("term", term.toJson),
        ("pattern", pattern.toJson)])
  | .literal truth => .variant "Literal" (.bool truth)
  | .and left right =>
      .variant "And" (.array [left.toJson, right.toJson])
  | .or left right =>
      .variant "Or" (.array [left.toJson, right.toJson])
  | .not inner => .variant "Not" inner.toJson

end Relmap

------------------------------------------------------------
-- Reading Terms
------------------------------------------------------------

namespace Relmap

/-
  The payload of a variant as a record. Without `inOrder`
  its members must be named.
-/
def Document.payload?
    (inOrder : Bool)
    (names : List String)
    (document : Document) : Option Record := do
  let record ← Record.ofDocument? names document
  if record.ordered && !inOrder then none else some record

def Column.ofDocument?
    (document : Document) : Option Column := do
  let record ←
    Record.ofDocument? ["table", "name"] document
  let table ← record.optional "table" Document.string?
  let name ← record.required "name" Document.string?
  return ⟨table, name⟩

/- An aggregate whose argument is read by `inner`. -/
def Term.aggregate?
    (inOrder : Bool)
    (inner : Document → Option Term)
    (payload : Document) : Option Term := do
  let record ←
    payload.payload? inOrder
      ["function", "argument", "distinct"]
  let function ←
    record.required "function"
      (Document.choice? AggregateFunction.names)
  let argument ← record.optional "argument" inner
  let distinct ← record.required "distinct" Document.bool?
  return .aggregate function argument distinct

/- The term of a document with so many brackets at most. -/
def Term.ofNested?
    (inOrder : Bool) :
    Nat → Document → Option Term
  | 0, _ => none
  | below + 1, document => do
      let (name, payload?) ← document.variant?
      let payload ← payload?
      match name with
      | "Column" =>
          (Column.ofDocument? payload).map .column
      | "Value" => (Value.ofDocument? payload).map .value
      | "Aggregate" =>
          aggregate? inOrder (ofNested? inOrder below) payload
      | "Upper" =>
          (ofNested? inOrder below payload).map .upper
      | _ => none

def Term.ofDocument?
    (inOrder : Bool)
    (document : Document) : Option Term :=
  ofNested? inOrder document.height document

end Relmap

------------------------------------------------------------
-- Reading Expressions
------------------------------------------------------------

namespace Relmap

namespace Criterion

/- A comparison, by the name of its variant. -/
def comparison?
    (inOrder : Bool)
    (payload : Document)
    (name : String) : Option Criterion := do
  let fields := payload.payload? inOrder
  let term := Term.ofDocument? inOrder
  match name with
  | "Compare" =>
      let record ← fields ["left", "op", "right"]
      let left ← record.required "left" term
      let op ←
        record.required "op"
          (Document.choice? CompareOp.names)
      let right ← record.required "right" term
      return .compare left op right
  | "In" =>
      let record ← fields ["term", "values", "negated"]
      let tested ← record.required "term" term
      let values ←
        record.required "values"
          (Document.list? Value.ofDocument?)
      let negated ← record.required "negated" Document.bool?
      return .member tested values negated
  | "Between" =>
      let record ← fields ["term", "low", "high"]
      let tested ← record.required "term" term
      let low ← record.required "low" Value.ofDocument?
      let high ← record.required "high" Value.ofDocument?
      return .between tested low high
  | "IsNull" =>
      let record ← fields ["term", "negated"]
      let tested ← record.required "term" term
      let negated ← record.required "negated" Document.bool?
      return .isNull tested negated
  | "Like" =>
      let record ← fields ["term", "pattern"]
      let tested ← record.required "term" term
      let pattern ← record.required "pattern" term
      return .like tested pattern
  | "Literal" => payload.bool?.map .literal
  | _ => none

/-
  The expression of a document with so many brackets at most.
-/
def ofNested?
    (inOrder : Bool) :
    Nat → Document → Option Criterion
  | 0, _ => none
  | below + 1, document => do
      let (name, payload?) ← document.variant?
      let payload ← payload?
      match name with
      | "And" =>
          let (left, right) ←
            payload.pair? (ofNested? inOrder below)
          return .and left right
      | "Or" =>
          let (left, right) ←
            payload.pair? (ofNested? inOrder below)
          return .or left right
      | "Not" => (ofNested? inOrder below payload).map .not
      | _ => comparison? inOrder payload name

/- The expression of a document. -/
def ofDocument?
    (inOrder : Bool)
    (document : Document) : Option Criterion :=
  ofNested? inOrder document.height document

/- The expression of a JSON value. -/
def ofJson? (json : Json) : Option Criterion :=
  ofDocument? false (.ofJson json)

/- The expression of JSON text. -/
def read? (text : String) : Option Criterion :=
  (Document.read? text).bind (ofDocument? true)

end Criterion

end Relmap
