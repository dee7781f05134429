import Relmap.Proofs.Criterion.ShapeText
import Relmap.Proofs.Query.Truth

/-
  Chains of modifiers, grouped one way or another.

  The text of a modifier is told by its outline, which has
  the shapes of both predicates. Outlines combine as their
  modifiers do, and this is associative, also where some of
  the modifiers are over groups. So the text of a chain does
  not depend on how it was grouped.

  Main declarations:
    * `Modifier.Outline`
    * `Modifier.outline_combine`
    * `Modifier.Outline.combine_assoc`
    * `Modifier.Grouping`
    * `Modifier.SameSql`
    * `Modifier.sameSql_regrouped`
-/

------------------------------------------------------------
-- Shapes Of Predicates
------------------------------------------------------------

namespace Relmap

namespace Predicate

open Criterion (Shape)

/- The shape of a predicate that is not empty. -/
def shape? (predicate : Predicate) : Option Shape :=
  predicate.criterion?.map Criterion.flatten

@[simp] theorem shape?_and (left right : Predicate) :
    (left.and right).shape? =
      Option.merge (.join .and) left.shape?
        right.shape? := by
  cases left <;> cases right <;> rfl

@[simp] theorem shape?_or (left right : Predicate) :
    (left.or right).shape? =
      Option.merge (.join .or) left.shape?
        right.shape? := by
  cases left <;> cases right <;> rfl

/- Exactly what is empty has no shape. -/
theorem isEmpty_eq_isNone (predicate : Predicate) :
    predicate.isEmpty = predicate.shape?.isNone := by
  cases predicate <;> rfl

/- The text of a predicate is the text of its shape. -/
theorem sql_eq_elim (predicate : Predicate) :
    predicate.sql = predicate.shape?.elim "" Shape.sql := by
  cases predicate with
  | empty => rfl
  | expr criterion => exact criterion.sql_flatten.symm

end Predicate

end Relmap

------------------------------------------------------------
-- Outlines
------------------------------------------------------------

namespace Relmap

namespace Modifier

open Criterion (Shape)

/- What the text of a modifier is told by. -/
structure Outline where
  predicate : Option Shape
  joins : List Join
  having : Option Shape

/- The outline of a modifier. -/
def outline (modifier : Modifier) : Outline :=
  ⟨modifier.predicate.shape?, modifier.joins,
    modifier.having.shape?⟩

namespace Outline

/- Both shapes as one. -/
def combined (outline : Outline) : Option Shape :=
  Option.merge (.join .and) outline.predicate outline.having

/- The outline of one predicate, on groups or on rows. -/
def ofShape
    (groups : Bool)
    (joins : List Join)
    (shape : Option Shape) : Outline :=
  if groups then ⟨.none, joins, shape⟩
  else ⟨shape, joins, .none⟩

/- Both outlines. -/
def and
    (left : Outline)
    (right : Outline) : Outline :=
  { predicate :=
      Option.merge (.join .and) left.predicate
        right.predicate
    joins := left.joins ++ right.joins
    having :=
      Option.merge (.join .and) left.having right.having }

/- Either outline, over groups as soon as one of them is. -/
def or
    (left : Outline)
    (right : Outline) : Outline :=
  ofShape (left.having.isSome || right.having.isSome)
    (left.joins ++ right.joins)
    (Option.merge (.join .or) left.combined right.combined)

/- Combine two outlines by a join type. -/
def combine
    (joinType : JoinType)
    (left : Outline)
    (right : Outline) : Outline :=
  match joinType with
  | .and => left.and right
  | .or => left.or right

variable {outline : Outline}

/- What is over rows only is combined already. -/
theorem combined_of_having
    (hHaving : outline.having = .none) :
    outline.combined = outline.predicate := by
  rw [combined, hHaving, Option.merge_none_right]

end Outline

/- An outline has both predicates as one. -/
theorem shape?_combined (modifier : Modifier) :
    modifier.combined.shape? = modifier.outline.combined :=
  Predicate.shape?_and _ _

/- Outlines combine as their modifiers do. -/
theorem outline_and (left right : Modifier) :
    (left.and right).outline =
      left.outline.and right.outline := by
  simp only [outline, and, Outline.and, Predicate.shape?_and]

theorem outline_or (left right : Modifier) :
    (left.or right).outline =
      left.outline.or right.outline := by
  have hGroups :
      (left.outline.having.isSome ||
          right.outline.having.isSome) =
        !(left.having.isEmpty && right.having.isEmpty) := by
    rw [Predicate.isEmpty_eq_isNone,
      Predicate.isEmpty_eq_isNone, Bool.not_and,
      Option.not_isNone, Option.not_isNone]
    rfl
  rw [or, Outline.or, hGroups]
  cases hRows :
      left.having.isEmpty && right.having.isEmpty with
  | true =>
      rw [Bool.and_eq_true, Predicate.isEmpty_eq_isNone,
        Predicate.isEmpty_eq_isNone, Option.isNone_iff_eq_none,
        Option.isNone_iff_eq_none] at hRows
      rw [Outline.combined_of_having hRows.1,
        Outline.combined_of_having hRows.2, if_pos rfl,
        outline, Predicate.shape?_or]
      rfl
  | false =>
      rw [if_neg Bool.false_ne_true, outline,
        Predicate.shape?_or, shape?_combined, shape?_combined]
      rfl

theorem outline_combine
    (joinType : JoinType)
    (left right : Modifier) :
    (joinType.combine left right).outline =
      .combine joinType left.outline right.outline := by
  cases joinType with
  | and => exact outline_and left right
  | or => exact outline_or left right

end Modifier

end Relmap

------------------------------------------------------------
-- Chains Of Outlines
------------------------------------------------------------

namespace Relmap

namespace Modifier

namespace Outline

open Criterion (Shape)

variable {groups : Bool}
variable {joins : List Join}
variable {shape : Option Shape}

@[simp] theorem joins_ofShape :
    (ofShape groups joins shape).joins = joins := by
  cases groups <;> rfl

@[simp] theorem combined_ofShape :
    (ofShape groups joins shape).combined = shape := by
  cases groups with
  | true => exact Option.merge_none_left
  | false => exact Option.merge_none_right

/- It is over groups if it should be, and has a shape. -/
@[simp] theorem isSome_having_ofShape :
    (ofShape groups joins shape).having.isSome =
      (groups && shape.isSome) := by
  cases groups <;> rfl

variable (first second third : Outline)

/- A disjunction is over groups if one side is. -/
theorem isSome_having_or :
    (first.or second).having.isSome =
      (first.having.isSome || second.having.isSome) := by
  rw [or, isSome_having_ofShape]
  simp only [combined, Option.isSome_merge]
  cases first.having.isSome <;>
    cases second.having.isSome <;> simp

theorem and_assoc :
    (first.and second).and third =
      first.and (second.and third) := by
  simp only [and, List.append_assoc,
    (Option.associative_merge (Shape.join .and)).assoc]

/-
  A disjunction of three is over groups if one of them is,
  however it is grouped. Its one predicate is that of all
  three in any case, whether one was moved early or late.
-/
theorem or_assoc :
    (first.or second).or third =
      first.or (second.or third) := by
  rw [or, or.eq_1 first (second.or third),
    isSome_having_or, isSome_having_or]
  simp only [or, joins_ofShape, combined_ofShape,
    List.append_assoc, Bool.or_assoc,
    (Option.associative_merge (Shape.join .or)).assoc]

theorem combine_assoc (joinType : JoinType) :
    combine joinType (combine joinType first second) third =
      combine joinType first
        (combine joinType second third) := by
  cases joinType with
  | and => exact and_assoc first second third
  | or => exact or_assoc first second third

instance (joinType : JoinType) :
    Std.Associative (combine joinType) :=
  ⟨fun first second third =>
    combine_assoc first second third joinType⟩

/- The outline of a row of outlines, unless it is empty. -/
def total?
    (joinType : JoinType)
    (outlines : List Outline) : Option Outline :=
  outlines.foldr
    (fun first => Option.merge (combine joinType) (some first))
    .none

/- A row may be parted anywhere. -/
theorem total?_append
    (joinType : JoinType)
    (front back : List Outline) :
    total? joinType (front ++ back) =
      Option.merge (combine joinType)
        (total? joinType front) (total? joinType back) := by
  have hAssoc :=
    (Option.associative_merge (combine joinType)).assoc
  induction front with
  | nil => exact Option.merge_none_left.symm
  | cons first front ih =>
      change
        Option.merge (combine joinType) (some first)
            (total? joinType (front ++ back)) =
          Option.merge (combine joinType)
            (Option.merge (combine joinType) (some first)
              (total? joinType front))
            (total? joinType back)
      rw [ih, hAssoc]

end Outline

end Modifier

end Relmap

------------------------------------------------------------
-- Groupings
------------------------------------------------------------

namespace Relmap

namespace Modifier

/- A chain of modifiers, grouped in pairs. -/
inductive Grouping where
  | single (modifier : Modifier)
  | pair (left right : Grouping)

namespace Grouping

/- The modifiers of the chain, in order. -/
def parts : Grouping → List Modifier
  | .single modifier => [modifier]
  | .pair left right => left.parts ++ right.parts

/- The modifiers combined as they are grouped. -/
def combine (joinType : JoinType) : Grouping → Modifier
  | .single modifier => modifier
  | .pair left right =>
      joinType.combine (left.combine joinType)
        (right.combine joinType)

/- The outline of a chain is told by its parts in order. -/
theorem outline_combine
    (joinType : JoinType)
    (grouping : Grouping) :
    some (grouping.combine joinType).outline =
      Outline.total? joinType
        (grouping.parts.map outline) := by
  induction grouping with
  | single modifier =>
      rw [combine, parts, List.map_singleton, Outline.total?,
        List.foldr_cons, List.foldr_nil,
        Option.merge_none_right]
  | pair left right ihLeft ihRight =>
      rw [parts, List.map_append, Outline.total?_append,
        ← ihLeft, ← ihRight, Option.merge_some_some,
        combine, Modifier.outline_combine]

end Grouping

/- The same joins, and predicates of the same text. -/
structure SameSql
    (one : Modifier)
    (other : Modifier) : Prop where
  joins : one.joins = other.joins
  predicate : one.predicate.sql = other.predicate.sql
  having : one.having.sql = other.having.sql

/- Modifiers of one outline have the same text. -/
theorem sameSql_of_outline
    {one other : Modifier}
    (hOutline : one.outline = other.outline) :
    one.SameSql other := by
  rcases one with ⟨predicate, joins, having⟩
  rcases other with ⟨predicate', joins', having'⟩
  simp only [outline, Outline.mk.injEq] at hOutline
  rcases hOutline with ⟨hPredicate, hJoins, hHaving⟩
  refine ⟨hJoins, ?_, ?_⟩
  · rw [Predicate.sql_eq_elim, hPredicate,
      ← Predicate.sql_eq_elim]
  · rw [Predicate.sql_eq_elim, hHaving,
      ← Predicate.sql_eq_elim]

/- The parts of a chain tell its text. -/
theorem Grouping.sameSql_of_parts
    {one other : Grouping}
    (hParts : one.parts = other.parts)
    (joinType : JoinType) :
    (one.combine joinType).SameSql
      (other.combine joinType) := by
  apply sameSql_of_outline
  apply Option.some.inj
  rw [outline_combine, outline_combine, hParts]

/-
  Conjunctions and disjunctions of three modifiers have the
  same joins and texts however they are grouped, and so have
  chains of any number of modifiers in one order.
-/
theorem sameSql_regrouped :
    (∀ first second third : Modifier,
      ((first.and second).and third).SameSql
          (first.and (second.and third)) ∧
        ((first.or second).or third).SameSql
          (first.or (second.or third))) ∧
      ∀ (joinType : JoinType) (one other : Grouping),
        one.parts = other.parts →
          (one.combine joinType).SameSql
            (other.combine joinType) := by
  constructor
  · intro first second third
    exact
      ⟨sameSql_of_outline (by
          simp only [outline_and, Outline.and_assoc]),
        sameSql_of_outline (by
          simp only [outline_or, Outline.or_assoc])⟩
  · intro joinType one other hParts
    exact Grouping.sameSql_of_parts hParts joinType

/- A comparison of a column of books. -/
private def bookHas (column : String) : Criterion :=
  (Term.qualified "book" column).eq (.int64 1)

private def onShelf : Modifier :=
  none.withPredicate (bookHas "shelf")

private def inVolume : Modifier :=
  none.withPredicate (bookHas "volume")

/- A modifier of both rows and groups. -/
private def numbered : Modifier :=
  (none.withPredicate (bookHas "author")).withHaving
    (bookHas "number")

private def rowsFirst : Grouping :=
  .pair (.pair (.single onShelf) (.single inVolume))
    (.single numbered)

private def groupsFirst : Grouping :=
  .pair (.single onShelf)
    (.pair (.single inVolume) (.single numbered))

/-
  A disjunction whose last modifier moves the others to the
  groups, one after the other or both at once.
-/
theorem sameSql_regrouped_shelf :
    rowsFirst.parts = groupsFirst.parts ∧
      (rowsFirst.combine .or).having.sql =
        (groupsFirst.combine .or).having.sql ∧
      (groupsFirst.combine .or).predicate.sql = "" ∧
      (groupsFirst.combine .or).having.sql =
        "\"book\".\"shelf\" = 1 OR " ++
          "\"book\".\"volume\" = 1 OR " ++
            "(\"book\".\"author\" = 1 AND " ++
              "\"book\".\"number\" = 1)" := by
  have hParts : rowsFirst.parts = groupsFirst.parts := rfl
  have hSame :=
    sameSql_regrouped.2 .or rowsFirst groupsFirst hParts
  exact ⟨hParts, hSame.having, rfl, by decide +kernel⟩

end Modifier

end Relmap
