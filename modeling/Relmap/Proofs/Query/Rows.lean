import Relmap.Proofs.Outcome
import Relmap.Proofs.Query.Truth

/-
  What a modifier makes of the rows of a database.

  A row holds a tuple of each table that is part of the
  query. A join adds the tuples for which its condition is
  true, or a tuple without values if there are none. The
  comparisons themselves are left to the database.

  Main declarations:
    * `Engine`
    * `Term.read`
    * `Engine.test`
    * `Join.extend`
    * `Modifier.rows`
    * `Lookup.criterion_agree`
    * `Join.extend_onColumns`
-/

------------------------------------------------------------
-- Databases
------------------------------------------------------------

namespace Relmap

/-
  What a database does with its values: it reads literals, of
  which null has no value, and compares values. Those that
  are equal in a comparison are the same.
-/
structure Engine (α : Type) where
  literal : Value → Option α
  compare : CompareOp → α → α → Bool
  like : α → α → Bool
  upper : α → α
  eq_of_compare :
    ∀ left right, compare .eq left right = true → left = right

/- The values of the columns of a tuple. -/
abbrev Tuple (α : Type) := String → Option α

/- The tuples of the tables of a database. -/
abbrev Database (α : Type) := String → List (Tuple α)

/- The tuple of each table that is part of a query. -/
abbrev Row (α : Type) := String → Tuple α

/- The tuple without values. -/
def Tuple.null {α : Type} : Tuple α := fun _ => none

end Relmap

------------------------------------------------------------
-- Comparisons Of Values
------------------------------------------------------------

namespace Relmap

variable {α : Type}

/- A comparison is unknown unless both values are known. -/
def Truth.ofValues
    (test : α → α → Bool) : Option α → Option α → Truth
  | some left, some right => .ofBool (test left right)
  | _, _ => .unknown

/-
  The value of a term on a row. Aggregates have none, and
  neither have columns that are not qualified.
-/
def Term.read
    (engine : Engine α)
    (row : Row α) : Term → Option α
  | .column ⟨some table, name⟩ => row table name
  | .column ⟨none, _⟩ => none
  | .value literal => engine.literal literal
  | .aggregate _ _ _ => none
  | .upper term => (term.read engine row).map engine.upper

namespace Engine

/- Whether a comparison finds two values equal. -/
def equates
    (engine : Engine α)
    (left : Option α)
    (right : Option α) : Bool :=
  Truth.ofValues (engine.compare .eq) left right = .yes

/- A value is among literals if it equals one of them. -/
def among
    (engine : Engine α)
    (value : Option α) : List Value → Truth
  | [] => .no
  | candidate :: rest =>
      (Truth.ofValues (engine.compare .eq) value
        (engine.literal candidate)).either
          (engine.among value rest)

/- The truth value of a comparison on a row. -/
def test
    (engine : Engine α)
    (row : Row α) : Criterion → Truth
  | .compare left op right =>
      .ofValues (engine.compare op) (left.read engine row)
        (right.read engine row)
  | .member term values negated =>
      let found := engine.among (term.read engine row) values
      if negated then found.opposite else found
  | .between term low high =>
      let value := term.read engine row
      (Truth.ofValues (engine.compare .ge) value
        (engine.literal low)).both
          (.ofValues (engine.compare .le) value
            (engine.literal high))
  | .isNull term negated =>
      .ofBool ((term.read engine row).isNone != negated)
  | .like term pattern =>
      .ofValues engine.like (term.read engine row)
        (pattern.read engine row)
  | _ => .unknown

/- Values that are found equal are known and the same. -/
theorem eq_of_equates
    {engine : Engine α}
    {left right : Option α}
    (hEqual : engine.equates left right = true) :
    left = right := by
  unfold equates at hEqual
  have hTruth := of_decide_eq_true hEqual
  cases left with
  | none => cases hTruth
  | some x =>
      cases right with
      | none => cases hTruth
      | some y =>
          have hSame : engine.compare .eq x y = true := by
            by_contra hOther
            simp [Truth.ofValues, Truth.ofBool, hOther]
              at hTruth
          rw [engine.eq_of_compare x y hSame]

/- Nothing equals a value that is not known. -/
theorem equates_none
    (engine : Engine α)
    (left : Option α) :
    engine.equates left none = false := by
  cases left <;> rfl

end Engine

end Relmap

------------------------------------------------------------
-- Joined Rows
------------------------------------------------------------

namespace Relmap

variable {α : Type}

/- The row with a tuple of one more table. -/
def Row.set
    (row : Row α)
    (table : String)
    (tuple : Tuple α) : Row α :=
  Function.update row table tuple

@[simp] theorem Row.set_self
    (row : Row α)
    (table : String)
    (tuple : Tuple α) :
    row.set table tuple table = tuple := by
  rw [set, Function.update_self]

theorem Row.set_of_ne
    {table other : String}
    (hOther : other ≠ table)
    (row : Row α)
    (tuple : Tuple α) :
    row.set table tuple other = row other := by
  rw [set, Function.update_of_ne hOther]

/-
  The rows that a left outer join makes of one: one for each
  tuple that meets the condition, or else one without
  values in the joined table.
-/
def Join.extend
    (engine : Engine α)
    (database : Database α)
    (join : Join)
    (row : Row α) : List (Row α) :=
  let found := (database join.table).filter fun tuple =>
    join.condition.truth
      (engine.test (row.set join.table tuple)) = .yes
  match found with
  | [] => [row.set join.table .null]
  | tuples => tuples.map (row.set join.table)

/- The rows that the joins of a modifier make of one. -/
def Modifier.rows
    (engine : Engine α)
    (database : Database α)
    (modifier : Modifier)
    (row : Row α) : List (Row α) :=
  modifier.joins.foldl
    (fun rows join =>
      rows.flatMap (join.extend engine database))
    [row]

variable {engine : Engine α}
variable {database : Database α}

/- A join on columns finds the tuples with an equal value. -/
theorem Join.extend_onColumns
    {table column knownTable knownColumn : String}
    (hKnown : knownTable ≠ table)
    (row : Row α) :
    (Join.onColumns table column knownTable
        knownColumn).extend engine database row =
      match (database table).filter fun tuple =>
          engine.equates (tuple column)
            (row knownTable knownColumn) with
      | [] => [row.set table .null]
      | tuples => tuples.map (row.set table) := by
  have hCondition (tuple : Tuple α) :
      (Join.onColumns table column knownTable
          knownColumn).condition.truth
            (engine.test (row.set table tuple)) =
        .ofValues (engine.compare .eq) (tuple column)
          (row knownTable knownColumn) := by
    have hTuple := Row.set_self row table tuple
    have hOther := Row.set_of_ne hKnown row tuple
    simp only [Join.onColumns, Term.eqTerm, Term.qualified,
      Criterion.truth, Engine.test, Term.read, hTuple, hOther]
  have hTable :
      (Join.onColumns table column knownTable
        knownColumn).table = table :=
    rfl
  simp only [Join.extend, Engine.equates, hTable, hCondition]

end Relmap

------------------------------------------------------------
-- Joins Through A Link Table
------------------------------------------------------------

namespace Relmap

variable {α : Type}

/-
  Every tuple of a table refers by one of its columns to
  exactly one tuple of another table.
-/
def Engine.Refers
    (engine : Engine α)
    (database : Database α)
    (table : String)
    (column : String)
    (target : String)
    (key : String) : Prop :=
  ∀ tuple ∈ database table, ∃ found,
    (database target).filter (fun other =>
      engine.equates (other key) (tuple column)) = [found]

variable {engine : Engine α}
variable {database : Database α}
variable {through near forward known own target key : String}

/-
  What follows a link adds one tuple to each row, with the
  value that the link has, or without any if there is no
  link.
-/
theorem Join.extend_of_refers
    (hKnown : known ≠ through)
    (hTarget : through ≠ target)
    (hRefers :
      engine.Refers database through forward target key)
    {start row : Row α}
    (hRow :
      row ∈
        (Join.onColumns through near known own).extend engine
          database start) :
    ∃ found,
      (Join.onColumns target key through forward).extend
            engine database row =
          [row.set target found] ∧
        found key = row through forward := by
  have hCases :
      row = start.set through .null ∨
        ∃ tuple ∈ database through,
          row = start.set through tuple := by
    rw [Join.extend_onColumns hKnown] at hRow
    split at hRow
    · exact .inl (List.mem_singleton.mp hRow)
    · rcases List.mem_map.mp hRow with ⟨tuple, hTuple, rfl⟩
      exact .inr ⟨tuple, (List.mem_filter.mp hTuple).1, rfl⟩
  rw [Join.extend_onColumns hTarget]
  rcases hCases with rfl | ⟨tuple, hTuple, rfl⟩
  · refine ⟨.null, ?_, by rw [Row.set_self]; rfl⟩
    have hNone :
        ((database target).filter fun other =>
          engine.equates (other key)
            (start.set through .null through forward)) = [] := by
      rw [List.filter_eq_nil_iff, Row.set_self]
      intro other _
      rw [Tuple.null, engine.equates_none]
      simp
    rw [hNone]
  · rcases hRefers tuple hTuple with ⟨found, hFound⟩
    have hMember : found ∈ [found] := List.mem_singleton_self _
    rw [← hFound] at hMember
    rw [Row.set_self, hFound]
    exact ⟨found, rfl,
      Engine.eq_of_equates (List.mem_filter.mp hMember).2⟩

/- Steps that add one row each keep rows side by side. -/
theorem forall₂_flatMap_singleton
    {β : Type}
    {Match : β → β → Prop}
    {step : β → List β}
    {items : List β}
    (hStep :
      ∀ item ∈ items, ∃ next,
        step item = [next] ∧ Match item next) :
    List.Forall₂ Match items (items.flatMap step) := by
  induction items with
  | nil => exact .nil
  | cons item rest ih =>
      rw [List.forall_mem_cons] at hStep
      rcases hStep.1 with ⟨next, hNext, hMatch⟩
      rw [List.flatMap_cons, hNext]
      exact .cons hMatch (ih hStep.2)

/-
  Rows of a link table are those that its target is joined
  to, and have the value that is compared in both tables.
-/
theorem Modifier.rows_of_refers
    {short full : Modifier}
    (hShort :
      short.joins = [.onColumns through near known own])
    (hFull :
      full.joins =
        [.onColumns through near known own,
          .onColumns target key through forward])
    (hKnown : known ≠ through)
    (hTarget : through ≠ target)
    (hRefers :
      engine.Refers database through forward target key)
    (start : Row α) :
    List.Forall₂
      (fun row other =>
        (∀ table, table ≠ target → row table = other table) ∧
          row through forward = other target key)
      (short.rows engine database start)
      (full.rows engine database start) := by
  simp only [Modifier.rows, hShort, hFull, List.foldl_cons,
    List.foldl_nil, List.flatMap_singleton]
  apply forall₂_flatMap_singleton
  intro row hRow
  rcases Join.extend_of_refers hKnown hTarget hRefers hRow with
    ⟨found, hExtend, hSame⟩
  refine ⟨_, hExtend, ?_, ?_⟩
  · intro table hOther
    exact (Row.set_of_ne hOther row found).symm
  · rw [Row.set_self]
    exact hSame.symm

end Relmap

------------------------------------------------------------
-- Comparisons Of Terms
------------------------------------------------------------

namespace Relmap

/-
  Two expressions say the same of two terms if they have one
  truth value wherever the terms have one value.
-/
def Criterion.SameOf
    (left right : Term)
    (first second : Criterion) : Prop :=
  ∀ (α : Type) (engine : Engine α) (row other : Row α),
    left.read engine row = right.read engine other →
      first.truth (engine.test row) =
        second.truth (engine.test other)

namespace Criterion

variable {left right : Term}
variable {first second third fourth : Criterion}

theorem sameOf_literal (value : Bool) :
    SameOf left right (.literal value) (.literal value) :=
  fun _ _ _ _ _ => rfl

theorem sameOf_compare
    (op : CompareOp)
    (value : Value) :
    SameOf left right (left.compare op value)
      (right.compare op value) := by
  intro α engine row other hRead
  simp only [Term.compare, truth, Engine.test, Term.read, hRead]

theorem sameOf_member
    (values : List Value)
    (negated : Bool) :
    SameOf left right (.member left values negated)
      (.member right values negated) := by
  intro α engine row other hRead
  simp only [truth, Engine.test, hRead]

theorem sameOf_between (low high : Value) :
    SameOf left right (left.between low high)
      (right.between low high) := by
  intro α engine row other hRead
  simp only [Term.between, truth, Engine.test, hRead]

theorem sameOf_isNull (negated : Bool) :
    SameOf left right (.isNull left negated)
      (.isNull right negated) := by
  intro α engine row other hRead
  simp only [truth, Engine.test, hRead]

theorem sameOf_nullTest (wanted : Bool) :
    SameOf left right (Lookup.nullTest left wanted)
      (Lookup.nullTest right wanted) := by
  cases wanted
  · exact sameOf_isNull true
  · exact sameOf_isNull false

theorem sameOf_like (before after : String) (value : Value) :
    SameOf left right
      (left.like (Lookup.pattern before after value))
      (right.like (Lookup.pattern before after value)) := by
  intro α engine row other hRead
  simp only [Term.like, Lookup.pattern, truth, Engine.test,
    Term.read, hRead]

/- Terms in upper case have one value if the terms have. -/
theorem sameOf_upper_like
    (before after : String)
    (value : Value) :
    SameOf left right
      ((Term.upper left).like
        (.upper (Lookup.pattern before after value)))
      ((Term.upper right).like
        (.upper (Lookup.pattern before after value))) := by
  intro α engine row other hRead
  simp only [Term.like, Lookup.pattern, truth, Engine.test,
    Term.read, hRead]

theorem sameOf_upper_eqTerm (value : Value) :
    SameOf left right
      ((Term.upper left).eqTerm (.upper (.value value)))
      ((Term.upper right).eqTerm (.upper (.value value))) := by
  intro α engine row other hRead
  simp only [Term.eqTerm, truth, Engine.test, Term.read,
    hRead]

theorem SameOf.or
    (hFirst : SameOf left right first second)
    (hSecond : SameOf left right third fourth) :
    SameOf left right (.or first third)
      (.or second fourth) := fun _ engine row other hRead =>
  congrArg₂ Truth.either (hFirst _ engine row other hRead)
    (hSecond _ engine row other hRead)

end Criterion

open Criterion in
/-
  A lookup fails for both of two terms or for neither, and
  otherwise says the same of both.
-/
theorem Lookup.criterion_agree
    (left right : Term)
    (lookup : Lookup)
    (value : Value) :
    Except.Agree (SameOf left right)
      (lookup.criterion left value)
      (lookup.criterion right value) := by
  cases lookup with
  | exact =>
      refine .ok ?_
      split
      · exact sameOf_isNull false
      · exact sameOf_compare .eq value
  | differs =>
      refine .ok ?_
      split
      · exact sameOf_isNull true
      · exact (sameOf_compare .ne value).or
          (sameOf_isNull false)
  | isIn =>
      refine (Except.agree_refl _).bind ?_
      rintro values _ rfl
      refine .ok ?_
      split
      · exact sameOf_literal false
      · exact sameOf_member values false
  | notIn =>
      refine (Except.agree_refl _).bind ?_
      rintro values _ rfl
      refine .ok ?_
      split
      · exact sameOf_literal true
      · exact (sameOf_member values true).or
          (sameOf_isNull false)
  | gt => exact .ok (sameOf_compare .gt value)
  | gte => exact .ok (sameOf_compare .ge value)
  | lt => exact .ok (sameOf_compare .lt value)
  | lte => exact .ok (sameOf_compare .le value)
  | range =>
      refine (Except.agree_refl _).bind ?_
      rintro values _ rfl
      split
      · exact .ok (sameOf_between _ _)
      · exact .error _
  | isNull =>
      refine (Except.agree_refl _).bind ?_
      rintro wanted _ rfl
      exact .ok (sameOf_nullTest wanted)
  | notIsNull =>
      refine (Except.agree_refl _).bind ?_
      rintro wanted _ rfl
      exact .ok (sameOf_nullTest !wanted)
  | contains => exact .ok (sameOf_like "%" "%" value)
  | startsWith => exact .ok (sameOf_like "" "%" value)
  | endsWith => exact .ok (sameOf_like "%" "" value)
  | icontains => exact .ok (sameOf_upper_like "%" "%" value)
  | istartsWith => exact .ok (sameOf_upper_like "" "%" value)
  | iendsWith => exact .ok (sameOf_upper_like "%" "" value)
  | iexact => exact .ok (sameOf_upper_eqTerm value)

end Relmap
