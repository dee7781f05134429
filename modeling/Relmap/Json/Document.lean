import Relmap.Json.Basic

/-
  JSON documents as they are read from text.

  A document may repeat a member, and it may hold parts that
  are well formed and have no value: a string with half of a
  character, a number beyond the range of doubles, brackets
  nested too deep. Whether this matters depends on who reads
  the document: a record takes the members that it knows and
  never looks at the others.

  Key definitions include:
    * `Document`
    * `Document.ofJson`
    * `Document.toJson?`
-/

------------------------------------------------------------
-- Documents
------------------------------------------------------------

namespace Relmap

/- Parts without a value are `unusable`, such names `none`. -/
inductive Document where
  | null
  | bool (value : Bool)
  | number (value : Json.Number)
  | string (text : String)
  | array (items : List Document)
  | object (members : List (Option String × Document))
  | unusable

instance : Inhabited Document := ⟨.null⟩

namespace Document

mutual

/- A value as a document. -/
def ofJson : Json → Document
  | .null => .null
  | .bool value => .bool value
  | .number value => .number value
  | .string text => .string text
  | .array items => .array (ofItems items)
  | .object members => .object (ofMembers members)

def ofItems : List Json → List Document
  | [] => []
  | item :: rest => ofJson item :: ofItems rest

def ofMembers :
    List (String × Json) → List (Option String × Document)
  | [] => []
  | (name, value) :: rest =>
      (some name, ofJson value) :: ofMembers rest

end

end Document

end Relmap

------------------------------------------------------------
-- Values Of Documents
------------------------------------------------------------

namespace Relmap

namespace Document

mutual

/-
  The value of a document all of whose parts have one. A
  repeated member has its last value in its first place.
-/
def toJson? : Document → Option Json
  | .null => some .null
  | .bool value => some (.bool value)
  | .number value => some (.number value)
  | .string text => some (.string text)
  | .array items => (toItems? items).map .array
  | .object members => (toMembers? [] members).map .object
  | .unusable => none

def toItems? : List Document → Option (List Json)
  | [] => some []
  | item :: rest => do
      let value ← toJson? item
      let values ← toItems? rest
      return value :: values

/- Members are added to those that came before. -/
def toMembers?
    (known : List (String × Json)) :
    List (Option String × Document) →
      Option (List (String × Json))
  | [] => some known
  | (name?, item) :: rest => do
      let name ← name?
      let value ← toJson? item
      toMembers? (Json.setMember name value known) rest

end

end Document

end Relmap
