import Relmap.Decimal.Integer
import Relmap.Value.Error

/-
  Faults of catalogs, filters and schemas.

  A fault is its cause with the names that it concerns. Its
  kind says who has to mend it, and its message says what is
  wrong.

  Key definitions include:
    * `ErrorKind`
    * `Error`
    * `Error.kind`
    * `Error.message`
-/

------------------------------------------------------------
-- Kinds And Causes
------------------------------------------------------------

namespace Relmap

/- The kinds of faults. -/
inductive ErrorKind where
  | validation
  | field
  | operational
  | configuration
  | protocol
  | json
  | endless
  deriving DecidableEq

/- The causes of faults. -/
inductive Error where
  /- A filter document has children that are no nodes. -/
  | childrenNotNodes
  /- A join type is neither of the two. -/
  | badJoinType
  /- A filter key names nothing that the model knows. -/
  | unknownKey (key : String) (allowed : List String)
  /- A comparison wants a list. -/
  | listExpected (suffix : String) (typeName : String)
  /- A comparison wants a boolean. -/
  | boolExpected (suffix : String) (typeName : String)
  /- A range wants two bounds. -/
  | boundsExpected (count : Nat)
  /- A path names no relation of the model it reached. -/
  | relationNotFound (name : String) (table : String)
  /- A custom filter compares nothing that is known. -/
  | computedNotFound (name : String)
  /- A computed column is over nothing that is known. -/
  | computedFieldNotFound (field : String) (table : String)
  /- An object in a filter document is no instance. -/
  | instanceExpected (text : String)
  /- The constraints of a filter document are no object. -/
  | constraintsExpected (text : String)
  /- A load request is for another model than the path. -/
  | loadMismatch
      (path : String)
      (target : String)
      (model : String)
  | unknownModel (name : String)
  | noPrimaryKey (model : String)
  | manyPrimaryKeys (model : String)
  | duplicateModel (model : String)
  | unknownTarget
      (model : String)
      (relation : String)
      (target : String)
  /- Both columns of a link table have one name. -/
  | sameLinkKeys
      (model : String)
      (relation : String)
      (key : String)
  /- A reverse relation has the name of another member. -/
  | relatedNameClash (name : String) (model : String)
  | fieldNotFound (field : String) (model : String)
  | noColumnType (dialect : String) (typeName : String)
  | lengthRequired (typeName : String)
  | precisionRequired (typeName : String)
  /- A group of fields names something else. -/
  | unknownGroupField
      (field : String)
      (group : String)
      (model : String)
  | cyclicReferences
  /- A literal could not be built. -/
  | value (fault : ValueError)
  /- A document is malformed or of the wrong shape. -/
  | malformedDocument
  /- The resolution of a filter key never ends. -/
  | endless (key : String)
  /- A fault that a caller states in words of its own. -/
  | reported (kind : ErrorKind) (text : String)
  deriving DecidableEq

end Relmap

------------------------------------------------------------
-- Kind And Message
------------------------------------------------------------

namespace Relmap

namespace Error

/- The kind of a fault. -/
def kind : Error → ErrorKind
  | .childrenNotNodes => .validation
  | .badJoinType => .validation
  | .unknownKey _ _ => .field
  | .listExpected _ _ => .operational
  | .boolExpected _ _ => .operational
  | .boundsExpected _ => .operational
  | .relationNotFound _ _ => .operational
  | .computedNotFound _ => .operational
  | .computedFieldNotFound _ _ => .operational
  | .instanceExpected _ => .operational
  | .constraintsExpected _ => .operational
  | .loadMismatch _ _ _ => .operational
  | .unknownModel _ => .configuration
  | .noPrimaryKey _ => .configuration
  | .manyPrimaryKeys _ => .configuration
  | .duplicateModel _ => .configuration
  | .unknownTarget _ _ _ => .configuration
  | .sameLinkKeys _ _ _ => .configuration
  | .relatedNameClash _ _ => .configuration
  | .fieldNotFound _ _ => .configuration
  | .noColumnType _ _ => .configuration
  | .lengthRequired _ => .configuration
  | .precisionRequired _ => .configuration
  | .unknownGroupField _ _ _ => .configuration
  | .cyclicReferences => .configuration
  | .value _ => .protocol
  | .malformedDocument => .json
  | .endless _ => .endless
  | .reported kind _ => kind

/- Names in single quotes with commas between them. -/
def quotedNames (names : List String) : String :=
  "[" ++
    ", ".intercalate
      (names.map fun name => "'" ++ name ++ "'") ++ "]"

/- What is wrong, in words. -/
def message : Error → String
  | .childrenNotNodes =>
      "All ordered arguments must be Q nodes"
  | .badJoinType => "join_type must be AND or OR"
  | .unknownKey key allowed =>
      "Unknown filter param '" ++ key ++
        "'. Allowed base values are " ++ quotedNames allowed
  | .listExpected suffix typeName =>
      suffix ++ " filter expects a list, got " ++ typeName
  | .boolExpected suffix typeName =>
      suffix ++ " filter expects a bool, got " ++ typeName
  | .boundsExpected count =>
      "range filter expects two bounds, got " ++
        Decimal.ofNat count
  | .relationNotFound name table =>
      "relation " ++ name ++ " for " ++ table ++
        " not found"
  | .computedNotFound name =>
      "annotation " ++ name ++ " not found"
  | .computedFieldNotFound field table =>
      "annotation field " ++ field ++ " for " ++ table ++
        " not found"
  | .instanceExpected text =>
      "filter value objects must carry model and pk: " ++
        text
  | .constraintsExpected text =>
      "filters must be an object, got " ++ text
  | .loadMismatch path target model =>
      "prefetch " ++ path ++ " loads " ++ target ++
        ", not " ++ model
  | .unknownModel name => "unknown model " ++ name
  | .noPrimaryKey model =>
      "model " ++ model ++ " has no primary key"
  | .manyPrimaryKeys model =>
      "model " ++ model ++
        " declares more than one primary key"
  | .duplicateModel model =>
      "model " ++ model ++ " is declared twice"
  | .unknownTarget model relation target =>
      "relation " ++ model ++ "." ++ relation ++
        " references unknown model " ++ target
  | .sameLinkKeys model relation key =>
      "relation " ++ model ++ "." ++ relation ++ " uses " ++
        key ++ " as both link table keys"
  | .relatedNameClash name model =>
      "related name " ++ name ++
        " clashes with an existing member of " ++ model
  | .fieldNotFound field model =>
      "field " ++ field ++ " not found on model " ++ model
  | .noColumnType dialect typeName =>
      "no " ++ dialect ++ " column type for field type " ++
        typeName
  | .lengthRequired typeName =>
      typeName ++ " requires max_length"
  | .precisionRequired typeName =>
      typeName ++ " requires max_digits and decimal_places"
  | .unknownGroupField field group model =>
      "unknown field " ++ field ++ " in " ++ group ++
        " of " ++ model
  | .cyclicReferences =>
      "Can't create schema due to cyclic fk references"
  | .value fault => "protocol error: " ++ fault.message
  | .malformedDocument => "JSON error"
  | .endless key => "filter key " ++ key ++ " never ends"
  | .reported _ text => text

end Error

end Relmap
