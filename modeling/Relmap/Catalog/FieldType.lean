/-
  Field types.

  A type has a name and may extend another type. It inherits
  the storage and the parameters of what it extends unless
  it sets them itself. Built-in types extend nothing.

  Key definitions include:
    * `FieldType`
    * `FieldType.lineage`
    * `FieldType.isA`
    * `FieldType.length?`
    * `FieldType.precision?`
    * `FieldType.isInteger`
-/

------------------------------------------------------------
-- Types And Their Ancestors
------------------------------------------------------------

namespace Relmap

/- The digits of a decimal type, and those after the point. -/
structure Precision where
  maxDigits : UInt32
  decimalPlaces : UInt32
  deriving DecidableEq

/- A field type with the type that it extends, if any. -/
structure FieldType where
  name : String
  base : Option FieldType
  maxLength : Option UInt32
  decimal : Option Precision

namespace FieldType

/- A type and its ancestors, itself first. -/
def lineage : FieldType → List FieldType
  | ⟨name, none, maxLength, decimal⟩ =>
      [⟨name, none, maxLength, decimal⟩]
  | ⟨name, some base, maxLength, decimal⟩ =>
      ⟨name, some base, maxLength, decimal⟩ :: lineage base

/- The type has the name, or extends a type that has it. -/
def isA
    (type : FieldType)
    (name : String) : Bool :=
  type.lineage.any fun ancestor => ancestor.name = name

/- The nearest length that is set. -/
def length? (type : FieldType) : Option UInt32 :=
  type.lineage.findSome? FieldType.maxLength

/- The nearest precision that is set. -/
def precision? (type : FieldType) : Option Precision :=
  type.lineage.findSome? FieldType.decimal

end FieldType

end Relmap

------------------------------------------------------------
-- Built-In Types
------------------------------------------------------------

namespace Relmap

namespace FieldType

/- A type that extends nothing. -/
def named (name : String) : FieldType :=
  ⟨name, none, none, none⟩

/- A type that extends another. -/
def extend
    (name : String)
    (base : FieldType) : FieldType :=
  ⟨name, some base, none, none⟩

/- The type with its own maximum length. -/
def withMaxLength
    (type : FieldType)
    (maxLength : UInt32) : FieldType :=
  { type with maxLength := some maxLength }

def booleanName : String := "BooleanField"

def smallIntName : String := "SmallIntField"

def intName : String := "IntField"

def bigIntName : String := "BigIntField"

def textName : String := "TextField"

def charName : String := "CharField"

def datetimeName : String := "DatetimeField"

def dateName : String := "DateField"

def timeDeltaName : String := "TimeDeltaField"

def decimalName : String := "DecimalField"

def floatName : String := "FloatField"

def jsonName : String := "JSONField"

def uuidName : String := "UUIDField"

def binaryName : String := "BinaryField"

/- Characters up to a maximum length. -/
def char (maxLength : UInt32) : FieldType :=
  (named charName).withMaxLength maxLength

/- Decimals of a precision. -/
def decimalOf
    (maxDigits : UInt32)
    (decimalPlaces : UInt32) : FieldType :=
  { named decimalName with
    decimal := some ⟨maxDigits, decimalPlaces⟩ }

/- The type is one of the three integer types. -/
def isInteger (type : FieldType) : Bool :=
  type.isA smallIntName || type.isA intName ||
    type.isA bigIntName

end FieldType

end Relmap
