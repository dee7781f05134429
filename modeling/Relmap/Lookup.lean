import Relmap.Criterion.Basic
import Relmap.Error
import Relmap.Text.Escape
import Relmap.Value.Text

/-
  Lookups: the comparisons that a filter key selects by the
  suffix behind its last separator.

  Key definitions include:
    * `Lookup`
    * `Lookup.all`
    * `Lookup.suffix`
    * `Lookup.ofSuffix?`
    * `Lookup.key`
    * `Lookup.criterion`
-/

------------------------------------------------------------
-- Lookups And Their Keys
------------------------------------------------------------

namespace Relmap

/- The comparisons. -/
inductive Lookup where
  | exact
  | differs
  | isIn
  | notIn
  | gt
  | gte
  | lt
  | lte
  | range
  | isNull
  | notIsNull
  | contains
  | icontains
  | startsWith
  | istartsWith
  | endsWith
  | iendsWith
  | iexact
  deriving DecidableEq

namespace Lookup

/- Every lookup, in the order of registration. -/
def all : List Lookup :=
  [exact, differs, isIn, notIn, gt, gte, lt, lte, range,
    isNull, notIsNull, contains, icontains, startsWith,
    istartsWith, endsWith, iendsWith, iexact]

/- The suffix of a lookup, empty for an exact match. -/
def suffix : Lookup → String
  | exact => ""
  | differs => "not"
  | isIn => "in"
  | notIn => "not_in"
  | gt => "gt"
  | gte => "gte"
  | lt => "lt"
  | lte => "lte"
  | range => "range"
  | isNull => "isnull"
  | notIsNull => "not_isnull"
  | contains => "contains"
  | icontains => "icontains"
  | startsWith => "startswith"
  | istartsWith => "istartswith"
  | endsWith => "endswith"
  | iendsWith => "iendswith"
  | iexact => "iexact"

/- The lookup with a suffix that is not empty. -/
def ofSuffix? (text : String) : Option Lookup :=
  if text = "" then none
  else all.find? fun lookup => lookup.suffix = text

/- The filter key of a lookup on a base name. -/
def key
    (lookup : Lookup)
    (base : String) : String :=
  if lookup = exact then base
  else base ++ "__" ++ lookup.suffix

end Lookup

end Relmap

------------------------------------------------------------
-- Operands
------------------------------------------------------------

namespace Relmap

namespace Lookup

/- The list that a lookup compares with. -/
def listOperand
    (lookup : Lookup)
    (value : Value) : Except Error (List Value) :=
  match value.list? with
  | some items => .ok items
  | none =>
      .error (.listExpected lookup.suffix value.typeName)

/- The boolean that a lookup compares with. -/
def boolOperand
    (lookup : Lookup)
    (value : Value) : Except Error Bool :=
  match value.bool? with
  | some flag => .ok flag
  | none =>
      .error (.boolExpected lookup.suffix value.typeName)

/-
  The pattern of the texts that hold the plain text of a
  literal with anything matched by the given wildcards
  before and after it.
-/
def pattern
    (before : String)
    (after : String)
    (value : Value) : Term :=
  .value (.string
    (before ++ Text.escapeLike value.plain ++ after))

end Lookup

end Relmap

------------------------------------------------------------
-- Criteria
------------------------------------------------------------

namespace Relmap

namespace Lookup

/- The term is null, or is not, as the flag says. -/
def nullTest
    (term : Term)
    (wanted : Bool) : Criterion :=
  if wanted then term.isNull else term.notNull

/-
  The expression that compares a term with a literal.

  Equality with null is a test for null. A negative lookup
  also selects rows where the term is null. Membership in an
  empty list is constant.
-/
def criterion
    (lookup : Lookup)
    (term : Term)
    (value : Value) : Except Error Criterion :=
  match lookup with
  | exact =>
      .ok (if value.isNull then term.isNull
        else term.eq value)
  | differs =>
      .ok (if value.isNull then term.notNull
        else .or (term.ne value) term.isNull)
  | isIn => do
      let values ← lookup.listOperand value
      return if values.isEmpty then .literal false
        else term.isIn values
  | notIn => do
      let values ← lookup.listOperand value
      return if values.isEmpty then .literal true
        else .or (term.notIn values) term.isNull
  | gt => .ok (term.compare .gt value)
  | gte => .ok (term.compare .ge value)
  | lt => .ok (term.compare .lt value)
  | lte => .ok (term.compare .le value)
  | range => do
      match ← lookup.listOperand value with
      | [low, high] => return term.between low high
      | other => throw (.boundsExpected other.length)
  | isNull => do
      let wanted ← lookup.boolOperand value
      return nullTest term wanted
  | notIsNull => do
      let wanted ← lookup.boolOperand value
      return nullTest term (!wanted)
  | contains => .ok (term.like (pattern "%" "%" value))
  | startsWith => .ok (term.like (pattern "" "%" value))
  | endsWith => .ok (term.like (pattern "%" "" value))
  | icontains =>
      .ok (Term.like (.upper term)
        (.upper (pattern "%" "%" value)))
  | istartsWith =>
      .ok (Term.like (.upper term)
        (.upper (pattern "" "%" value)))
  | iendsWith =>
      .ok (Term.like (.upper term)
        (.upper (pattern "%" "" value)))
  | iexact =>
      .ok (Term.eqTerm (.upper term)
        (.upper (.value value)))

end Lookup

end Relmap
