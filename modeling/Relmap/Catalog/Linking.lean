import Relmap.Catalog.Basic

/-
  Linking: a list of declarations becomes a catalog in which
  every relation can be followed in both directions.

  Declarations are checked first. Then the names that a
  relation leaves open are filled in, every foreign key gets
  a field with the type of the key that it references, and
  last every relation that names its reverse gets it on the
  target. Models and their declared members keep their
  order.

  Key definitions include:
    * `Catalog.checkNames`
    * `Catalog.checkKey`
    * `Catalog.completeRelation`
    * `Catalog.linkModel`
    * `Catalog.addReverse`
    * `Catalog.link`
-/

------------------------------------------------------------
-- Declarations
------------------------------------------------------------

namespace Relmap

namespace Catalog

/- The text, or another if it is empty. -/
def orElse
    (text : String)
    (other : String) : String :=
  if text = "" then other else text

/- The model with its table name filled in. -/
def withTable (model : Model) : Model :=
  { model with
    table := orElse model.table (Text.lowercase model.name) }

/- No model has the name of one that was seen before. -/
def checkNames
    (seen : List String) :
    List Model → Except Error Unit
  | [] => .ok ()
  | model :: rest =>
      if model.name ∈ seen then
        .error (.duplicateModel model.name)
      else checkNames (model.name :: seen) rest

/- A model has exactly one primary key. -/
def checkKey (model : Model) : Except Error Unit :=
  match model.fields.filter Field.primaryKey with
  | [] => .error (.noPrimaryKey model.name)
  | [_] => .ok ()
  | _ => .error (.manyPrimaryKeys model.name)

/-
  The declarations as a catalog of their own, with every
  table named, once the names and keys are in order.
-/
def declare
    (models : List Model) : Except Error Catalog := do
  checkNames [] models
  let tabled := models.map withTable
  tabled.forM checkKey
  return ⟨tabled⟩

end Catalog

end Relmap

------------------------------------------------------------
-- Relations
------------------------------------------------------------

namespace Relmap

namespace Catalog

/-
  The link table of a relation from one table to another. Its
  columns are named after the tables, and a table that is
  linked to itself gets another name for the far side.
-/
def completeLink
    (ownTable : String)
    (targetTable : String)
    (link : ManyToMany) : ManyToMany :=
  let backwardKey :=
    orElse link.backwardKey (ownTable ++ "_id")
  let farKey :=
    if targetTable ++ "_id" = backwardKey then
      targetTable ++ "_rel_id"
    else targetTable ++ "_id"
  { link with
    through :=
      orElse link.through (ownTable ++ "_" ++ targetTable)
    backwardKey := backwardKey
    forwardKey := orElse link.forwardKey farKey }

/- The foreign key with its field named. -/
def completeKey
    (relation : String)
    (key : ForeignKey) : ForeignKey :=
  { key with
    sourceField := orElse key.sourceField (relation ++ "_id") }

/-
  A relation of a model with all names filled in. The target
  must be declared, and the two columns of a link table must
  differ.
-/
def completeRelation
    (declared : Catalog)
    (model : Model)
    (relation : Relation) : Except Error Relation :=
  match declared.model? relation.target with
  | none =>
      .error (.unknownTarget model.name relation.name
        relation.target)
  | some target =>
      match relation.kind with
      | .foreignKey key =>
          .ok { relation with
            kind := .foreignKey (completeKey relation.name key) }
      | .backward _ => .ok relation
      | .manyToMany link =>
          let complete :=
            completeLink model.table target.table link
          if complete.forwardKey = complete.backwardKey then
            .error (.sameLinkKeys model.name relation.name
              complete.forwardKey)
          else
            .ok { relation with kind := .manyToMany complete }

end Catalog

end Relmap

------------------------------------------------------------
-- Backing Fields
------------------------------------------------------------

namespace Relmap

namespace Catalog

/-
  The field of a foreign key: it has the type of the key that
  it references.
-/
def backingField
    (relation : String)
    (key : ForeignKey)
    (referenced : Field) : Field :=
  { name := key.sourceField
    type := referenced.type
    nullable := key.nullable
    unique := key.oneToOne
    description := key.description
    reference := some relation }

/-
  Let a field back a foreign key. A declared field of the
  name keeps all but its type, and is unique if either is.
-/
def addBacking
    (column : Field) :
    List Field → List Field
  | [] => [column]
  | field :: rest =>
      if field.name = column.name then
        { field with
          type := column.type
          reference := column.reference
          unique := field.unique || column.unique } :: rest
      else field :: addBacking column rest

/-
  Add the backing field of a relation to the fields of its
  model. Only a foreign key has one.
-/
def backRelation
    (declared : Catalog)
    (fields : List Field)
    (relation : Relation) : List Field :=
  match relation.kind with
  | .foreignKey key =>
      match (declared.model? relation.target).bind
          Model.primaryKey? with
      | some referenced =>
          addBacking
            (backingField relation.name key referenced) fields
      | none => fields
  | _ => fields

/- A model with its relations complete and backed. -/
def linkModel
    (declared : Catalog)
    (model : Model) : Except Error Model := do
  let relations ←
    model.relations.mapM (completeRelation declared model)
  return { model with
    relations := relations
    fields :=
      relations.foldl (backRelation declared) model.fields }

end Catalog

end Relmap

------------------------------------------------------------
-- Reverse Relations
------------------------------------------------------------

namespace Relmap

namespace Catalog

/-
  The reverse of a complete relation, if the relation names
  one. A link is followed from its other end, and exactly
  one of the two sides owns the link table.
-/
def reverse?
    (model : Model)
    (relation : Relation) : Option Relation :=
  match relation.kind with
  | .foreignKey key =>
      key.relatedName.map fun name =>
        ⟨name, model.name,
          .backward ⟨key.sourceField, key.oneToOne⟩⟩
  | .backward _ => none
  | .manyToMany link =>
      link.relatedName.map fun name =>
        ⟨name, model.name,
          .manyToMany
            { through := link.through
              forwardKey := link.backwardKey
              backwardKey := link.forwardKey
              ownsThrough := !link.ownsThrough
              relatedName := none
              description := link.description }⟩

/- The reverse relations of a model with their targets. -/
def reversesOf (model : Model) : List (String × Relation) :=
  model.relations.filterMap fun relation =>
    (reverse? model relation).map fun other =>
      (relation.target, other)

/-
  Append a relation to the model with a name, unless one of
  its members has the name of the relation.
-/
def addReverse
    (target : String)
    (relation : Relation) :
    List Model → Except Error (List Model)
  | [] => .ok []
  | model :: rest =>
      if model.name = target then
        if (model.field? relation.name).isSome ∨
            (model.relation? relation.name).isSome then
          .error (.relatedNameClash relation.name model.name)
        else
          .ok ({ model with
            relations := model.relations ++ [relation] }
              :: rest)
      else
        (addReverse target relation rest).map (model :: ·)

end Catalog

end Relmap

------------------------------------------------------------
-- Linking
------------------------------------------------------------

namespace Relmap

namespace Catalog

/- Link a list of declarations. -/
def link
    (models : List Model) : Except Error Catalog := do
  let declared ← declare models
  let linked ← declared.models.mapM (linkModel declared)
  let complete ←
    (linked.flatMap reversesOf).foldlM
      (fun models (target, relation) =>
        addReverse target relation models) linked
  return ⟨complete⟩

end Catalog

end Relmap
