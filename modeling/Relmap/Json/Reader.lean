import Relmap.Json.Document
import Relmap.Json.Token

/-
  Reading JSON text as a document.

  The reader keeps the brackets that are open and what may
  come next. Every token extends the innermost bracket or
  closes it.

  Key definitions include:
    * `Json.Frame`
    * `Json.Reading`
    * `Json.Reading.step?`
    * `Document.read?`
    * `Json.read?`
-/

------------------------------------------------------------
-- Reading State
------------------------------------------------------------

namespace Relmap

namespace Json

/- A document nests no deeper than this many brackets. -/
def depthLimit : Nat := 127

/-
  An open bracket with what it holds so far in reverse. An
  object also has the name of the member being read.
-/
inductive Frame where
  | array (items : List Document)
  | object
      (members : List (Option String × Document))
      (name : Option String)

/- What may come next. -/
inductive Expected where
  | value
  | valueOrEnd
  | name
  | nameOrEnd
  | colon
  | commaOrEnd

/- The brackets open, innermost first, or the result. -/
inductive Reading where
  | inside (frames : List Frame) (expected : Expected)
  | done (document : Document)

end Json

end Relmap

------------------------------------------------------------
-- Steps
------------------------------------------------------------

namespace Relmap

namespace Json

/- A complete value arrives inside the open brackets. -/
def Reading.put
    (document : Document) :
    List Frame → Reading
  | [] => .done document
  | .array items :: rest =>
      .inside (.array (document :: items) :: rest) .commaOrEnd
  | .object members name :: rest =>
      .inside (.object ((name, document) :: members) name :: rest)
        .commaOrEnd

/-
  Close the innermost bracket. A bracket that is nested too
  deep has no value.
-/
def Reading.close
    (frames : List Frame)
    (document : Document) : Reading :=
  if depthLimit < frames.length then
    .put .unusable (frames.drop 1)
  else .put document (frames.drop 1)

/- A value or an opening bracket, where a value may stand. -/
def Reading.value?
    (frames : List Frame) : Token → Option Reading
  | .beginArray =>
      some (.inside (.array [] :: frames) .valueOrEnd)
  | .beginObject =>
      some (.inside (.object [] none :: frames) .nameOrEnd)
  | .null => some (.put .null frames)
  | .bool value => some (.put (.bool value) frames)
  | .number value =>
      let document := value.elim Document.unusable .number
      some (.put document frames)
  | .string text =>
      let document := text.elim Document.unusable .string
      some (.put document frames)
  | _ => none

/- The name of a member. -/
def Reading.name?
    (frames : List Frame)
    (name : Option String) : Option Reading :=
  match frames with
  | .object members _ :: rest =>
      some (.inside (.object members name :: rest) .colon)
  | _ => none

/- The end of the innermost bracket. -/
def Reading.finish? :
    List Frame → Token → Option Reading
  | frames@(.array items :: _), .endArray =>
      some (.close frames (.array items.reverse))
  | frames@(.object members _ :: _), .endObject =>
      some (.close frames (.object members.reverse))
  | _, _ => none

/- The comma between two items or members. -/
def Reading.comma? (frames : List Frame) : Option Reading :=
  match frames with
  | .array _ :: _ => some (.inside frames .value)
  | .object _ _ :: _ => some (.inside frames .name)
  | [] => none

/- Take the next token. -/
def Reading.step? :
    Reading → Token → Option Reading
  | .done _, _ => none
  | .inside frames .value, token => value? frames token
  | .inside frames .valueOrEnd, .endArray =>
      finish? frames .endArray
  | .inside frames .valueOrEnd, token => value? frames token
  | .inside frames .name, .string text => name? frames text
  | .inside frames .nameOrEnd, .string text =>
      name? frames text
  | .inside frames .nameOrEnd, .endObject =>
      finish? frames .endObject
  | .inside frames .colon, .colon =>
      some (.inside frames .value)
  | .inside frames .commaOrEnd, .comma => comma? frames
  | .inside frames .commaOrEnd, token => finish? frames token
  | _, _ => none

end Json

end Relmap

------------------------------------------------------------
-- Documents And Values
------------------------------------------------------------

namespace Relmap

/- The document that a text holds, if it is well formed. -/
def Document.read? (text : String) : Option Document := do
  let tokens ← Json.tokens? text.toList
  let start : Json.Reading := .inside [] .value
  let reading ← tokens.foldlM Json.Reading.step? start
  match reading with
  | .done document => some document
  | .inside _ _ => none

/-
  The value that a text holds, if it is well formed and all
  of its parts have a value.
-/
def Json.read? (text : String) : Option Json :=
  (Document.read? text).bind Document.toJson?

end Relmap
