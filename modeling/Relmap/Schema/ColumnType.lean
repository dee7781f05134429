import Relmap.Catalog.FieldType
import Relmap.Decimal.Integer
import Relmap.Error

/-
  Column types.

  A dialect maps names of field types to templates, in which
  parameters of the field type are filled in. A field type
  takes the template of the nearest ancestor that has one,
  and each parameter from the nearest ancestor that sets it.

  Key definitions include:
    * `TemplatePart`
    * `TypeTemplate`
    * `TypeTemplate.text`
    * `TypeTemplate.fill`
    * `baseTemplate?`
    * `columnTypeOf`
-/

------------------------------------------------------------
-- Templates
------------------------------------------------------------

namespace Relmap

/- Fixed text, or a parameter of the field type. -/
inductive TemplatePart where
  | text (words : String)
  | maxLength
  | maxDigits
  | decimalPlaces
  deriving DecidableEq

/- A template is a row of parts. -/
abbrev TypeTemplate := List TemplatePart

/- A part with its parameter named in braces. -/
def TemplatePart.pattern : TemplatePart → String
  | .text words => words
  | .maxLength => "\x7bmax_length\x7d"
  | .maxDigits => "\x7bmax_digits\x7d"
  | .decimalPlaces => "\x7bdecimal_places\x7d"

/- A part with its parameter filled in. -/
def TemplatePart.fill
    (length : UInt32)
    (precision : Precision) : TemplatePart → String
  | .text words => words
  | .maxLength => Decimal.ofNat length.toNat
  | .maxDigits => Decimal.ofNat precision.maxDigits.toNat
  | .decimalPlaces =>
      Decimal.ofNat precision.decimalPlaces.toNat

namespace TypeTemplate

/- A template with its parameters named in braces. -/
def pattern (template : TypeTemplate) : String :=
  String.join (template.map TemplatePart.pattern)

/- A template with its parameters filled in. -/
def fill
    (length : UInt32)
    (precision : Precision)
    (template : TypeTemplate) : String :=
  String.join
    (template.map (TemplatePart.fill length precision))

/- A template without parameters. -/
def fixed (text : String) : TypeTemplate :=
  [.text text]

end TypeTemplate

end Relmap

------------------------------------------------------------
-- Common Templates
------------------------------------------------------------

namespace Relmap

/- The templates that the dialects share. -/
def baseTemplates : List (String × TypeTemplate) :=
  [(FieldType.booleanName, .fixed "BOOL"),
    (FieldType.intName, .fixed "INT"),
    (FieldType.smallIntName, .fixed "SMALLINT"),
    (FieldType.bigIntName, .fixed "BIGINT"),
    (FieldType.textName, .fixed "TEXT"),
    (FieldType.charName,
      [.text "VARCHAR(", .maxLength, .text ")"]),
    (FieldType.datetimeName, .fixed "TIMESTAMP"),
    (FieldType.decimalName,
      [.text "DECIMAL(", .maxDigits, .text ",",
        .decimalPlaces, .text ")"]),
    (FieldType.timeDeltaName, .fixed "BIGINT"),
    (FieldType.dateName, .fixed "DATE"),
    (FieldType.floatName, .fixed "DOUBLE PRECISION"),
    (FieldType.jsonName, .fixed "TEXT"),
    (FieldType.uuidName, .fixed "CHAR(36)"),
    (FieldType.binaryName, .fixed "BLOB")]

/- The common template of a type name. -/
def baseTemplate? (typeName : String) : Option TypeTemplate :=
  baseTemplates.lookup typeName

/- The template of a type name, unless others come first. -/
def templateOver?
    (own : List (String × TypeTemplate))
    (typeName : String) : Option TypeTemplate :=
  (own.lookup typeName).or (baseTemplate? typeName)

end Relmap

------------------------------------------------------------
-- Column Types
------------------------------------------------------------

namespace Relmap

/- The length that a template asks for, if it does. -/
def lengthFor
    (template : TypeTemplate)
    (type : FieldType) : Except Error UInt32 :=
  if TemplatePart.maxLength ∈ template then
    match type.length? with
    | some length => .ok length
    | none => .error (.lengthRequired type.name)
  else .ok 0

/- The precision that a template asks for, if it does. -/
def precisionFor
    (template : TypeTemplate)
    (type : FieldType) : Except Error Precision :=
  if TemplatePart.maxDigits ∈ template then
    match type.precision? with
    | some precision => .ok precision
    | none => .error (.precisionRequired type.name)
  else .ok ⟨0, 0⟩

/- The column type of a field type by the templates given. -/
def columnTypeOf
    (dialect : String)
    (template? : String → Option TypeTemplate)
    (type : FieldType) : Except Error String :=
  match type.lineage.findSome?
      (fun ancestor => template? ancestor.name) with
  | none => .error (.noColumnType dialect type.name)
  | some template => do
      let length ← lengthFor template type
      let precision ← precisionFor template type
      return template.fill length precision

end Relmap
