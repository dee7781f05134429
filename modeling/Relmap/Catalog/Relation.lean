/-
  Relations between models.

  Key definitions include:
    * `OnDelete`
    * `ForeignKey`
    * `BackwardKey`
    * `ManyToMany`
    * `RelationKind`
    * `Relation`
-/

------------------------------------------------------------
-- Delete Policies
------------------------------------------------------------

namespace Relmap

/- What happens to rows whose referenced row is deleted. -/
inductive OnDelete where
  | cascade
  | restrict
  | setNull
  | setDefault
  | noAction
  deriving DecidableEq

namespace OnDelete

/- The policy in SQL. -/
def sql : OnDelete → String
  | .cascade => "CASCADE"
  | .restrict => "RESTRICT"
  | .setNull => "SET NULL"
  | .setDefault => "SET DEFAULT"
  | .noAction => "NO ACTION"

end OnDelete

end Relmap

------------------------------------------------------------
-- Kinds Of Relations
------------------------------------------------------------

namespace Relmap

/-
  A foreign key: the field `sourceField` of the model holds
  the primary key of the target. `relatedName` names the
  reverse relation of the target.
-/
structure ForeignKey where
  sourceField : String := ""
  onDelete : OnDelete := .cascade
  oneToOne : Bool := false
  nullable : Bool := false
  relatedName : Option String := none
  description : Option String := none
  deriving DecidableEq

/-
  The other end of a foreign key: the field `relationField`
  of the target holds the primary key of the model.
-/
structure BackwardKey where
  relationField : String
  oneToOne : Bool := false
  deriving DecidableEq

/-
  An association through a link table, whose column
  `forwardKey` references the target and whose column
  `backwardKey` references the model.
-/
structure ManyToMany where
  through : String := ""
  forwardKey : String := ""
  backwardKey : String := ""
  ownsThrough : Bool := true
  relatedName : Option String := none
  description : Option String := none
  deriving DecidableEq

inductive RelationKind where
  | foreignKey (key : ForeignKey)
  | backward (key : BackwardKey)
  | manyToMany (link : ManyToMany)
  deriving DecidableEq

/- A relation from the model that declares it to a target. -/
structure Relation where
  name : String
  target : String
  kind : RelationKind
  deriving DecidableEq

end Relmap

------------------------------------------------------------
-- Reading Relations
------------------------------------------------------------

namespace Relmap

namespace Relation

/- The foreign key of a relation that is one. -/
def foreignKey? (relation : Relation) : Option ForeignKey :=
  match relation.kind with
  | .foreignKey key => some key
  | _ => none

/- The link of a relation that is many-to-many. -/
def manyToMany? (relation : Relation) : Option ManyToMany :=
  match relation.kind with
  | .manyToMany link => some link
  | _ => none

/- The field that backs a foreign key. -/
def sourceField? (relation : Relation) : Option String :=
  relation.foreignKey?.map ForeignKey.sourceField

/- The name of the reverse relation on the target. -/
def relatedName? (relation : Relation) : Option String :=
  match relation.kind with
  | .foreignKey key => key.relatedName
  | .manyToMany link => link.relatedName
  | .backward _ => none

/- The description of a relation, if it has one. -/
def description? (relation : Relation) : Option String :=
  match relation.kind with
  | .foreignKey key => key.description
  | .manyToMany link => link.description
  | .backward _ => none

end Relation

end Relmap

------------------------------------------------------------
-- Building Relations
------------------------------------------------------------

namespace Relmap

namespace Relation

/- A foreign key backed by a field named after it. -/
def toOne
    (name : String)
    (target : String) : Relation :=
  ⟨name, target,
    .foreignKey { sourceField := name ++ "_id" }⟩

/- A foreign key that no two rows share. -/
def oneToOne
    (name : String)
    (target : String) : Relation :=
  ⟨name, target,
    .foreignKey
      { sourceField := name ++ "_id", oneToOne := true }⟩

/- A many-to-many relation with all names left open. -/
def toMany
    (name : String)
    (target : String) : Relation :=
  ⟨name, target, .manyToMany {}⟩

/- The other end of a foreign key of the target. -/
def backward
    (name : String)
    (target : String)
    (relationField : String) : Relation :=
  ⟨name, target,
    .backward { relationField := relationField }⟩

/- Change a foreign key, and leave other kinds alone. -/
def mapForeignKey
    (change : ForeignKey → ForeignKey)
    (relation : Relation) : Relation :=
  match relation.kind with
  | .foreignKey key =>
      { relation with kind := .foreignKey (change key) }
  | _ => relation

/- Change a link, and leave other kinds alone. -/
def mapManyToMany
    (change : ManyToMany → ManyToMany)
    (relation : Relation) : Relation :=
  match relation.kind with
  | .manyToMany link =>
      { relation with kind := .manyToMany (change link) }
  | _ => relation

/- Set the delete policy of a foreign key. -/
def withOnDelete
    (policy : OnDelete) : Relation → Relation :=
  mapForeignKey fun key => { key with onDelete := policy }

/- Let the column of a foreign key be null. -/
def withNull : Relation → Relation :=
  mapForeignKey fun key => { key with nullable := true }

/- Set the field that backs a foreign key. -/
def withSourceField
    (field : String) : Relation → Relation :=
  mapForeignKey fun key => { key with sourceField := field }

/- Set the link table. -/
def withThrough
    (table : String) : Relation → Relation :=
  mapManyToMany fun link => { link with through := table }

/- Set both columns of the link table. -/
def withKeys
    (backwardKey : String)
    (forwardKey : String) : Relation → Relation :=
  mapManyToMany fun link =>
    { link with
      backwardKey := backwardKey, forwardKey := forwardKey }

/- Name the reverse relation. -/
def withRelatedName
    (name : String)
    (relation : Relation) : Relation :=
  (relation.mapForeignKey fun key =>
    { key with relatedName := some name }).mapManyToMany
      fun link => { link with relatedName := some name }

/- Set the description. -/
def withDescription
    (text : String)
    (relation : Relation) : Relation :=
  (relation.mapForeignKey fun key =>
    { key with description := some text }).mapManyToMany
      fun link => { link with description := some text }

end Relation

end Relmap
