import Relmap.Json.Document

/-
  Decoding of documents into typed data.

  A record is written as an object, or as an array of its
  members in order. In an object unknown members are passed
  over without a look at their values, and a known member
  stands at most once; what is missing may have a default.
  In an array only members at the end may be missing, and
  only those with a default.

  A variant is written as its name, or as an object whose
  one member is named after it and holds its payload.

  Key definitions include:
    * `Record`
    * `Record.ofDocument?`
    * `Record.required`
    * `Record.optional`
    * `Record.defaulted`
    * `Document.variant?`
-/

------------------------------------------------------------
-- Plain Values
------------------------------------------------------------

namespace Relmap

namespace Document

/- The text of a string. -/
def string? : Document → Option String
  | .string text => some text
  | _ => none

def bool? : Document → Option Bool
  | .bool value => some value
  | _ => none

/- A whole number between two bounds. -/
def integer?
    (low : Int)
    (high : Int) : Document → Option Int
  | .number (.integer n) =>
      if low ≤ n ∧ n ≤ high then some n else none
  | _ => none

/- A number below a power of two. -/
def unsigned?
    (width : Nat)
    (document : Document) : Option Nat :=
  (document.integer? 0 (twoTo width - 1)).map Int.toNat

/- The items of an array, each decoded. -/
def list?
    {α : Type}
    (decode : Document → Option α) :
    Document → Option (List α)
  | .array items => items.mapM decode
  | _ => none

/- Nothing for null, and the decoded value otherwise. -/
def nullable?
    {α : Type}
    (decode : Document → Option α) :
    Document → Option (Option α)
  | .null => some none
  | document => (decode document).map some

mutual

/- The number of brackets around the innermost value. -/
def height : Document → Nat
  | .array items => heightItems items + 1
  | .object members => heightMembers members + 1
  | _ => 0

def heightItems : List Document → Nat
  | [] => 0
  | item :: rest => max (height item) (heightItems rest)

def heightMembers : List (Option String × Document) → Nat
  | [] => 0
  | (_, item) :: rest =>
      max (height item) (heightMembers rest)

end

end Document

end Relmap

------------------------------------------------------------
-- Records
------------------------------------------------------------

namespace Relmap

/-
  The known members of a record, and whether they were
  written in order without names.
-/
structure Record where
  ordered : Bool
  members : List (String × Document)

namespace Record

/- The names of all members of an object. -/
private def named? :
    List (Option String × Document) →
      Option (List (String × Document)) :=
  List.mapM fun (name?, item) =>
    name?.map fun name => (name, item)

/- The members of a record whose members have these names. -/
def ofDocument?
    (names : List String) : Document → Option Record
  | .array items =>
      if items.length ≤ names.length then
        some ⟨true, names.zip items⟩
      else none
  | .object members => do
      let all ← named? members
      let known := all.filter fun (name, _) =>
        names.contains name
      if (known.map Prod.fst).Nodup then
        some ⟨false, known⟩
      else none
  | _ => none

/- The document of a member. -/
def member?
    (record : Record)
    (name : String) : Option Document :=
  record.members.lookup name

/- A member that must be present. -/
def required
    {α : Type}
    (record : Record)
    (name : String)
    (decode : Document → Option α) : Option α :=
  (record.member? name).bind decode

/- A member with a default. -/
def defaulted
    {α : Type}
    (record : Record)
    (name : String)
    (default : α)
    (decode : Document → Option α) : Option α :=
  match record.member? name with
  | some document => decode document
  | none => some default

/-
  A member that may be null. Written by name it may also be
  missing.
-/
def optional
    {α : Type}
    (record : Record)
    (name : String)
    (decode : Document → Option α) : Option (Option α) :=
  match record.member? name with
  | some document => document.nullable? decode
  | none => if record.ordered then none else some none

end Record

end Relmap

------------------------------------------------------------
-- Variants
------------------------------------------------------------

namespace Relmap

namespace Document

/- The name of a variant and its payload, if it has one. -/
def variant? : Document → Option (String × Option Document)
  | .string name => some (name, none)
  | .object [(some name, payload)] =>
      some (name, some payload)
  | _ => none

/- A variant without payload, which may be written as null. -/
def isBare : Option Document → Bool
  | none => true
  | some .null => true
  | some _ => false

/- A choice between variants without payload. -/
def choice?
    {α : Type}
    (options : List (String × α))
    (document : Document) : Option α := do
  let (name, payload) ← document.variant?
  if isBare payload then options.lookup name else none

/- The two items of a pair. -/
def pair?
    {α : Type}
    (decode : Document → Option α) :
    Document → Option (α × α)
  | .array [first, second] => do
      let left ← decode first
      let right ← decode second
      return (left, right)
  | _ => none

end Document

end Relmap
