import Relmap.Catalog.Linking
import Relmap.Json.Reader
import Relmap.Value.Document

/-
  Models as documents: the declarations of a catalog are an
  array of models.

  Key definitions include:
    * `FieldType.ofDocument?`
    * `Field.ofDocument?`
    * `RelationKind.ofDocument?`
    * `Model.ofDocument?`
    * `Model.toJson`
    * `Catalog.ofDocument`
-/

------------------------------------------------------------
-- Reading Fields
------------------------------------------------------------

namespace Relmap

def Precision.ofDocument?
    (document : Document) : Option Precision := do
  let record ←
    Record.ofDocument? ["max_digits", "decimal_places"]
      document
  let maxDigits ←
    record.required "max_digits" Document.uint32?
  let decimalPlaces ←
    record.required "decimal_places" Document.uint32?
  return ⟨maxDigits, decimalPlaces⟩

/- A member that may be null, and is null by default. -/
def Record.orNull
    {α : Type}
    (record : Record)
    (name : String)
    (decode : Document → Option α) : Option (Option α) :=
  record.defaulted name none (Document.nullable? decode)

/- A flag that is off by default. -/
def Record.flag
    (record : Record)
    (name : String) : Option Bool :=
  record.defaulted name false Document.bool?

/- The type of a document with so many brackets at most. -/
def FieldType.ofNested? :
    Nat → Document → Option FieldType
  | 0, _ => none
  | below + 1, document => do
      let record ←
        Record.ofDocument?
          ["name", "base", "max_length", "decimal"] document
      let name ← record.required "name" Document.string?
      let base ← record.orNull "base" (ofNested? below)
      let maxLength ←
        record.orNull "max_length" Document.uint32?
      let decimal ←
        record.orNull "decimal" Precision.ofDocument?
      return ⟨name, base, maxLength, decimal⟩

def FieldType.ofDocument?
    (document : Document) : Option FieldType :=
  ofNested? document.height document

def Field.ofDocument?
    (document : Document) : Option Field := do
  let record ←
    Record.ofDocument?
      ["name", "source_field", "type", "pk", "null",
        "unique", "index", "description", "default",
        "reference"] document
  let name ← record.required "name" Document.string?
  let sourceField ←
    record.orNull "source_field" Document.string?
  let type ← record.required "type" FieldType.ofDocument?
  let primaryKey ← record.flag "pk"
  let nullable ← record.flag "null"
  let unique ← record.flag "unique"
  let index ← record.flag "index"
  let description ←
    record.orNull "description" Document.string?
  let default ← record.orNull "default" Value.ofDocument?
  let reference ←
    record.orNull "reference" Document.string?
  return {
    name := name
    sourceField := sourceField
    type := type
    primaryKey := primaryKey
    nullable := nullable
    unique := unique
    index := index
    description := description
    default := default
    reference := reference }

end Relmap

------------------------------------------------------------
-- Reading Relations
------------------------------------------------------------

namespace Relmap

/- The names of the delete policies in documents. -/
def OnDelete.names : List (String × OnDelete) :=
  [("CASCADE", .cascade), ("RESTRICT", .restrict),
    ("SET_NULL", .setNull), ("SET_DEFAULT", .setDefault),
    ("NO_ACTION", .noAction)]

/- A delete policy. -/
def OnDelete.ofDocument? :
    Document → Option OnDelete :=
  Document.choice? OnDelete.names

/-
  A delete policy inside the kind of a relation, where an
  empty object may stand for the missing payload.
-/
def OnDelete.ofInner?
    (document : Document) : Option OnDelete := do
  match document with
  | .object [(some name, .object [])] =>
      OnDelete.names.lookup name
  | _ => OnDelete.ofDocument? document

def ForeignKey.ofDocument?
    (document : Document) : Option ForeignKey := do
  let record ←
    Record.ofDocument?
      ["source_field", "on_delete", "one_to_one", "null",
        "related_name", "description"] document
  let sourceField ←
    record.defaulted "source_field" "" Document.string?
  let onDelete ←
    record.defaulted "on_delete" .cascade OnDelete.ofInner?
  let oneToOne ← record.flag "one_to_one"
  let nullable ← record.flag "null"
  let relatedName ←
    record.orNull "related_name" Document.string?
  let description ←
    record.orNull "description" Document.string?
  return {
    sourceField := sourceField
    onDelete := onDelete
    oneToOne := oneToOne
    nullable := nullable
    relatedName := relatedName
    description := description }

def BackwardKey.ofDocument?
    (document : Document) : Option BackwardKey := do
  let record ←
    Record.ofDocument? ["relation_field", "one_to_one"]
      document
  let relationField ←
    record.required "relation_field" Document.string?
  let oneToOne ← record.flag "one_to_one"
  return ⟨relationField, oneToOne⟩

def ManyToMany.ofDocument?
    (document : Document) : Option ManyToMany := do
  let record ←
    Record.ofDocument?
      ["through", "forward_key", "backward_key",
        "owns_through", "related_name", "description"]
      document
  let through ←
    record.defaulted "through" "" Document.string?
  let forwardKey ←
    record.defaulted "forward_key" "" Document.string?
  let backwardKey ←
    record.defaulted "backward_key" "" Document.string?
  let ownsThrough ←
    record.defaulted "owns_through" true Document.bool?
  let relatedName ←
    record.orNull "related_name" Document.string?
  let description ←
    record.orNull "description" Document.string?
  return {
    through := through
    forwardKey := forwardKey
    backwardKey := backwardKey
    ownsThrough := ownsThrough
    relatedName := relatedName
    description := description }

/- The kind of a relation by the name of its tag. -/
def RelationKind.ofTagged?
    (tag : String)
    (document : Document) : Option RelationKind :=
  match tag with
  | "foreign_key" =>
      (ForeignKey.ofDocument? document).map .foreignKey
  | "backward_foreign_key" =>
      (BackwardKey.ofDocument? document).map .backward
  | "many_to_many" =>
      (ManyToMany.ofDocument? document).map .manyToMany
  | _ => none

/-
  The kind of a relation: a record with its tag among its
  members, or first if they are written in order. The whole
  of it must have a value, unknown members included.
-/
def RelationKind.ofDocument?
    (document : Document) : Option RelationKind := do
  let _ ← document.toJson?
  match document with
  | .array (.string tag :: items) =>
      ofTagged? tag (.array items)
  | .object members =>
      let isTag (member : Option String × Document) : Bool :=
        member.1 = some "type"
      match members.filter isTag with
      | [(_, .string tag)] =>
          ofTagged? tag (.object (members.filter (!isTag ·)))
      | _ => none
  | _ => none

def Relation.ofDocument?
    (document : Document) : Option Relation := do
  let record ←
    Record.ofDocument? ["name", "target", "kind"] document
  let name ← record.required "name" Document.string?
  let target ← record.required "target" Document.string?
  let kind ← record.required "kind" RelationKind.ofDocument?
  return ⟨name, target, kind⟩

end Relmap

------------------------------------------------------------
-- Reading Models
------------------------------------------------------------

namespace Relmap

/- Groups of names. -/
def Document.groups? :
    Document → Option (List (List String)) :=
  list? (list? string?)

def Model.ofDocument?
    (document : Document) : Option Model := do
  let record ←
    Record.ofDocument?
      ["name", "table", "description", "fields",
        "relations", "unique_together", "indexes"] document
  let name ← record.required "name" Document.string?
  let table ← record.defaulted "table" "" Document.string?
  let description ←
    record.orNull "description" Document.string?
  let fields ←
    record.defaulted "fields" []
      (Document.list? Field.ofDocument?)
  let relations ←
    record.defaulted "relations" []
      (Document.list? Relation.ofDocument?)
  let uniqueTogether ←
    record.defaulted "unique_together" [] Document.groups?
  let indexes ←
    record.defaulted "indexes" [] Document.groups?
  return {
    name := name
    table := table
    description := description
    fields := fields
    relations := relations
    uniqueTogether := uniqueTogether
    indexes := indexes }

/- The declarations that a document lists. -/
def Model.listOfDocument?
    (document : Document) : Option (List Model) :=
  document.list? Model.ofDocument?

/- The catalog whose declarations a document lists. -/
def Catalog.ofDocument
    (document : Document) : Except Error Catalog :=
  match Model.listOfDocument? document with
  | some models => Catalog.link models
  | none => .error .malformedDocument

end Relmap

------------------------------------------------------------
-- Writing
------------------------------------------------------------

namespace Relmap

def Precision.toJson (precision : Precision) : Json :=
  .object [
    ("max_digits", .ofNat precision.maxDigits.toNat),
    ("decimal_places",
      .ofNat precision.decimalPlaces.toNat)]

def FieldType.toJson : FieldType → Json
  | ⟨name, base, maxLength, decimal⟩ =>
      .object [
        ("name", .string name),
        ("base",
          match base with
          | some ancestor => FieldType.toJson ancestor
          | none => .null),
        ("max_length",
          .ofOption (fun n : UInt32 => .ofNat n.toNat)
            maxLength),
        ("decimal", .ofOption Precision.toJson decimal)]

def Field.toJson (field : Field) : Json :=
  .object [
    ("name", .string field.name),
    ("source_field", .ofOption .string field.sourceField),
    ("type", field.type.toJson),
    ("pk", .bool field.primaryKey),
    ("null", .bool field.nullable),
    ("unique", .bool field.unique),
    ("index", .bool field.index),
    ("description", .ofOption .string field.description),
    ("default", .ofOption Value.toJson field.default),
    ("reference", .ofOption .string field.reference)]

def OnDelete.name : OnDelete → String
  | .cascade => "CASCADE"
  | .restrict => "RESTRICT"
  | .setNull => "SET_NULL"
  | .setDefault => "SET_DEFAULT"
  | .noAction => "NO_ACTION"

def RelationKind.toJson : RelationKind → Json
  | .foreignKey key =>
      .object [
        ("type", .string "foreign_key"),
        ("source_field", .string key.sourceField),
        ("on_delete", .string key.onDelete.name),
        ("one_to_one", .bool key.oneToOne),
        ("null", .bool key.nullable),
        ("related_name", .ofOption .string key.relatedName),
        ("description", .ofOption .string key.description)]
  | .backward key =>
      .object [
        ("type", .string "backward_foreign_key"),
        ("relation_field", .string key.relationField),
        ("one_to_one", .bool key.oneToOne)]
  | .manyToMany link =>
      .object [
        ("type", .string "many_to_many"),
        ("through", .string link.through),
        ("forward_key", .string link.forwardKey),
        ("backward_key", .string link.backwardKey),
        ("owns_through", .bool link.ownsThrough),
        ("related_name", .ofOption .string link.relatedName),
        ("description", .ofOption .string link.description)]

def Relation.toJson (relation : Relation) : Json :=
  .object [
    ("name", .string relation.name),
    ("target", .string relation.target),
    ("kind", relation.kind.toJson)]

def Model.toJson (model : Model) : Json :=
  .object [
    ("name", .string model.name),
    ("table", .string model.table),
    ("description", .ofOption .string model.description),
    ("fields", .array (model.fields.map Field.toJson)),
    ("relations",
      .array (model.relations.map Relation.toJson)),
    ("unique_together",
      .array (model.uniqueTogether.map Json.ofStrings)),
    ("indexes", .array (model.indexes.map Json.ofStrings))]

end Relmap
