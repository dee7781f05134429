import Relmap.Proofs.Outcome
import Relmap.Proofs.Query.Rows

/-
  Which rows a lookup selects, and which its negative one.

  A comparison with what is not known is neither true nor
  false, and only what is true is selected. A negative
  lookup therefore also asks for null, so that each row is
  selected by one of both. The exception is a list that
  holds null: a value that equals nothing else of the list
  is neither in it nor not in it.

  Main declarations:
    * `Reading`
    * `Reading.test`
    * `Lookup.Selects`
    * `Lookup.Takes`
    * `Lookup.selects_isIn_iff`
    * `Lookup.selects_notIn_iff`
    * `Lookup.criterion_complements`
-/

------------------------------------------------------------
-- Readings
------------------------------------------------------------

namespace Relmap

/-
  What operands are on a row, and how values are compared.
  Of literals only null is no value.
-/
structure Reading (α : Type) where
  datum : Term → Option α
  relates : CompareOp → α → α → Bool
  like : α → α → Bool
  datum_value :
    ∀ value, datum (.value value) = none ↔ value = .null

namespace Reading

variable {α : Type}

/- Compare two operands by one of the fixed relations. -/
def compare
    (reading : Reading α)
    (op : CompareOp)
    (left right : Term) : Truth :=
  .ofValues (reading.relates op) (reading.datum left)
    (reading.datum right)

/- The operand equals one of some literals, or another. -/
def among
    (reading : Reading α)
    (term : Term) : List Value → Truth
  | [] => .no
  | value :: rest =>
      (reading.compare .eq term (.value value)).either
        (reading.among term rest)

/-
  The truth value of a comparison. To differ is not to be
  equal, and to lie between bounds is to be neither below
  the one nor above the other.
-/
def test (reading : Reading α) : Criterion → Truth
  | .compare left .ne right =>
      (reading.compare .eq left right).opposite
  | .compare left op right => reading.compare op left right
  | .member term values negated =>
      let found := reading.among term values
      if negated then found.opposite else found
  | .between term low high =>
      (reading.compare .ge term (.value low)).both
        (reading.compare .le term (.value high))
  | .isNull term negated =>
      .ofBool ((reading.datum term).isNone != negated)
  | .like term pattern =>
      .ofValues reading.like (reading.datum term)
        (reading.datum pattern)
  | _ => .unknown

end Reading

end Relmap

------------------------------------------------------------
-- Truth Values
------------------------------------------------------------

namespace Relmap

namespace Truth

variable {left right : Truth}

theorem either_eq_yes_iff :
    left.either right = .yes ↔ left = .yes ∨ right = .yes := by
  cases left <;> cases right <;> decide

theorem either_eq_no_iff :
    left.either right = .no ↔ left = .no ∧ right = .no := by
  cases left <;> cases right <;> decide

theorem opposite_eq_yes_iff :
    left.opposite = .yes ↔ left = .no := by
  cases left <;> decide

theorem ofBool_eq_yes_iff {value : Bool} :
    ofBool value = .yes ↔ value = true := by
  cases value <;> decide

/- A comparison is known exactly if both of its values are. -/
theorem ofValues_eq_unknown_iff
    {α : Type}
    {test : α → α → Bool}
    {first second : Option α} :
    ofValues test first second = .unknown ↔
      first = none ∨ second = none := by
  cases first with
  | none => simp [ofValues]
  | some x =>
      cases second with
      | none => simp [ofValues]
      | some y =>
          cases hTest : test x y <;>
            simp [ofValues, ofBool, hTest]

end Truth

namespace Reading

variable {α : Type}
variable {reading : Reading α}
variable {op : CompareOp}
variable {term : Term}
variable {value : Value}
variable {values : List Value}

/- A comparison with a literal lacks a value if one does. -/
theorem compare_eq_unknown_iff :
    reading.compare op term (.value value) = .unknown ↔
      reading.datum term = none ∨ value = .null := by
  rw [compare, Truth.ofValues_eq_unknown_iff,
    reading.datum_value]

/- What is found among literals equals one of them. -/
theorem among_eq_yes_iff :
    reading.among term values = .yes ↔
      ∃ value ∈ values,
        reading.compare .eq term (.value value) = .yes := by
  induction values with
  | nil => simp [among]
  | cons value rest ih =>
      rw [among, Truth.either_eq_yes_iff, ih]
      simp

/- What is surely not among them differs from each. -/
theorem among_eq_no_iff :
    reading.among term values = .no ↔
      ∀ value ∈ values,
        reading.compare .eq term (.value value) = .no := by
  induction values with
  | nil => simp [among]
  | cons value rest ih =>
      rw [among, Truth.either_eq_no_iff, ih,
        List.forall_mem_cons]

end Reading

end Relmap

------------------------------------------------------------
-- Selection
------------------------------------------------------------

namespace Relmap

namespace Lookup

/- The lookup has an expression, which is true. -/
def Selects
    {α : Type}
    (lookup : Lookup)
    (reading : Reading α)
    (term : Term)
    (value : Value) : Prop :=
  ∃ criterion,
    lookup.criterion term value = .ok criterion ∧
      criterion.truth reading.test = .yes

/- The values that a lookup compares with. -/
def Takes : Lookup → Value → Prop
  | isIn, value | notIn, value =>
      ∃ items, value = .list items
  | range, value => ∃ low high, value = .list [low, high]
  | isNull, value | notIsNull, value =>
      ∃ flag, value = .bool flag
  | _, _ => True

variable {lookup : Lookup}
variable {term : Term}
variable {value : Value}

/- What is no list is refused where one is needed. -/
theorem exists_listOperand_bind_eq_error
    (hList : ∀ items, value ≠ .list items)
    (next : List Value → Except Error Criterion) :
    ∃ fault,
      (lookup.listOperand value >>= next) = .error fault := by
  cases value with
  | list items => exact absurd rfl (hList items)
  | _ => exact ⟨_, rfl⟩

/- So is what is no truth value. -/
theorem exists_boolOperand_bind_eq_error
    (hBool : ∀ flag, value ≠ .bool flag)
    (next : Bool → Except Error Criterion) :
    ∃ fault,
      (lookup.boolOperand value >>= next) = .error fault := by
  cases value with
  | bool flag => exact absurd rfl (hBool flag)
  | _ => exact ⟨_, rfl⟩

/- A range needs two bounds. -/
theorem exists_range_eq_error
    (hBounds : ∀ low high, value ≠ .list [low, high]) :
    ∃ fault, range.criterion term value = .error fault := by
  by_cases hList : ∃ items, value = .list items
  · rcases hList with ⟨items, rfl⟩
    match items with
    | [low, high] => exact absurd rfl (hBounds low high)
    | [] => exact ⟨_, rfl⟩
    | [low] => exact ⟨_, rfl⟩
    | low :: high :: next :: rest => exact ⟨_, rfl⟩
  · exact exists_listOperand_bind_eq_error
      (not_exists.mp hList) _

/- A lookup fails for what it does not take, and only then. -/
theorem exists_criterion_eq_error_iff :
    (∃ fault, lookup.criterion term value = .error fault) ↔
      ¬ lookup.Takes value := by
  constructor
  · rintro ⟨fault, hFault⟩ hTakes
    cases lookup with
    | isIn =>
        rcases hTakes with ⟨items, rfl⟩
        cases hFault
    | notIn =>
        rcases hTakes with ⟨items, rfl⟩
        cases hFault
    | range =>
        rcases hTakes with ⟨low, high, rfl⟩
        cases hFault
    | isNull =>
        rcases hTakes with ⟨flag, rfl⟩
        cases hFault
    | notIsNull =>
        rcases hTakes with ⟨flag, rfl⟩
        cases hFault
    | _ => cases hFault
  · intro hTakes
    cases lookup with
    | isIn | notIn =>
        exact exists_listOperand_bind_eq_error
          (not_exists.mp hTakes) _
    | range =>
        apply exists_range_eq_error
        intro low high hSame
        exact hTakes ⟨low, high, hSame⟩
    | isNull | notIsNull =>
        exact exists_boolOperand_bind_eq_error
          (not_exists.mp hTakes) _
    | _ => exact absurd trivial hTakes

end Lookup

end Relmap

------------------------------------------------------------
-- Negative Forms
------------------------------------------------------------

namespace Relmap

variable {α : Type}
variable {reading : Reading α}
variable {term : Term}

namespace Criterion

/- A test for null is never unknown. -/
theorem truth_nullTest (wanted : Bool) :
    (Lookup.nullTest term wanted).truth reading.test =
      .ofBool ((reading.datum term).isNone == wanted) := by
  cases wanted with
  | true =>
      simp [Lookup.nullTest, Term.isNull, truth,
        Reading.test]
  | false =>
      simp [Lookup.nullTest, Term.notNull, truth,
        Reading.test]

/- So one for the contrary holds where it does not. -/
theorem truth_nullTest_not (wanted : Bool) :
    (Lookup.nullTest term (!wanted)).truth reading.test =
        .yes ↔
      (Lookup.nullTest term wanted).truth reading.test ≠
        .yes := by
  rw [truth_nullTest, truth_nullTest]
  cases wanted <;> cases (reading.datum term).isNone <;>
    decide

/- A negative form that asks for null as well. -/
theorem truth_or_isNull_iff {negative : Criterion} :
    (Criterion.or negative term.isNull).truth reading.test =
        .yes ↔
      negative.truth reading.test = .yes ∨
        reading.datum term = none := by
  have hNull :
      term.isNull.truth reading.test =
        .ofBool ((reading.datum term).isNone == true) :=
    truth_nullTest true
  rw [truth, Truth.either_eq_yes_iff, hNull,
    Truth.ofBool_eq_yes_iff]
  simp

end Criterion

namespace Reading

/- A literal other than null is equal to what is known, or not. -/
theorem compare_ne_yes_iff
    {op : CompareOp}
    {value : Value}
    (hValue : value ≠ .null) :
    reading.compare op term (.value value) ≠ .yes ↔
      reading.compare op term (.value value) = .no ∨
        reading.datum term = none := by
  have hUnknown :
      reading.compare op term (.value value) = .unknown ↔
        reading.datum term = none ∨ value = .null :=
    compare_eq_unknown_iff
  cases hTruth : reading.compare op term (.value value) with
  | no => simp
  | unknown => simpa [hTruth, hValue] using hUnknown
  | yes =>
      have hKnown : reading.datum term ≠ none := by
        intro hNone
        rw [hUnknown.mpr (.inl hNone)] at hTruth
        cases hTruth
      simp [hKnown]

end Reading

end Relmap

------------------------------------------------------------
-- Selected Rows
------------------------------------------------------------

namespace Relmap

namespace Lookup

variable {α : Type}
variable {reading : Reading α}
variable {term : Term}

/- A lookup selects if its one expression is true. -/
theorem selects_iff_of_eq_ok
    {lookup : Lookup}
    {value : Value}
    {criterion : Criterion}
    (hCriterion :
      lookup.criterion term value = .ok criterion) :
    lookup.Selects reading term value ↔
      criterion.truth reading.test = .yes := by
  simp [Selects, hCriterion]

/- Rows that do not equal a value differ from it. -/
theorem selects_differs_iff (value : Value) :
    differs.Selects reading term value ↔
      ¬ exact.Selects reading term value := by
  rw [selects_iff_of_eq_ok rfl, selects_iff_of_eq_ok rfl]
  by_cases hNull : value = .null
  · subst hNull
    exact Criterion.truth_nullTest_not true
  · have hOther : value.isNull = false := by
      cases value with
      | null => exact absurd rfl hNull
      | _ => rfl
    have hEqual :
        (term.eq value).truth reading.test =
          reading.compare .eq term (.value value) :=
      rfl
    have hDiffers :
        (term.ne value).truth reading.test =
          (reading.compare .eq term (.value value)).opposite :=
      rfl
    rw [hOther]
    simp only [Bool.false_eq_true, if_false]
    rw [Criterion.truth_or_isNull_iff, hEqual, hDiffers,
      Truth.opposite_eq_yes_iff]
    exact (reading.compare_ne_yes_iff hNull).symm

/- Rows that are not null are those that are not. -/
theorem selects_notIsNull_iff (flag : Bool) :
    notIsNull.Selects reading term (.bool flag) ↔
      ¬ isNull.Selects reading term (.bool flag) := by
  rw [selects_iff_of_eq_ok rfl, selects_iff_of_eq_ok rfl]
  exact Criterion.truth_nullTest_not flag

/- Members are found among the items. -/
theorem selects_isIn_iff (items : List Value) :
    isIn.Selects reading term (.list items) ↔
      reading.among term items = .yes := by
  rw [selects_iff_of_eq_ok rfl]
  cases items with
  | nil => exact Iff.rfl
  | cons item rest => exact Iff.rfl

/- Others are surely not among them, or null. -/
theorem selects_notIn_iff (items : List Value) :
    notIn.Selects reading term (.list items) ↔
      reading.among term items = .no ∨
        reading.datum term = none := by
  rw [selects_iff_of_eq_ok rfl]
  cases items with
  | nil =>
      have hNone : reading.among term [] = .no := rfl
      simp [hNone, Criterion.truth, Truth.ofBool]
  | cons item rest =>
      have hNotIn :
          (term.notIn (item :: rest)).truth reading.test =
            (reading.among term (item :: rest)).opposite :=
        rfl
      rw [List.isEmpty_cons, if_neg Bool.false_ne_true,
        Criterion.truth_or_isNull_iff, hNotIn,
        Truth.opposite_eq_yes_iff]

/- What is not known is equal to nothing. -/
theorem not_selects_isIn_of_none
    (hDatum : reading.datum term = none)
    (items : List Value) :
    ¬ isIn.Selects reading term (.list items) := by
  rw [selects_isIn_iff, Reading.among_eq_yes_iff]
  rintro ⟨item, _, hEqual⟩
  rw [Reading.compare_eq_unknown_iff.mpr (.inl hDatum)]
    at hEqual
  cases hEqual

/- No row is in a list and not in it. -/
theorem not_selects_isIn_and_notIn (items : List Value) :
    ¬ (isIn.Selects reading term (.list items) ∧
      notIn.Selects reading term (.list items)) := by
  rintro ⟨hIn, hNotIn⟩
  rcases (selects_notIn_iff items).mp hNotIn with
    hNone | hDatum
  · rw [selects_isIn_iff, hNone] at hIn
    cases hIn
  · exact not_selects_isIn_of_none hDatum items hIn

/-
  A row is in neither way selected if the list holds null
  and the row a value that equals nothing else there.
-/
theorem selects_neither_iff (items : List Value) :
    (¬ isIn.Selects reading term (.list items) ∧
        ¬ notIn.Selects reading term (.list items)) ↔
      .null ∈ items ∧
        reading.datum term ≠ none ∧
        ∀ item ∈ items, item ≠ .null →
          reading.compare .eq term (.value item) ≠ .yes := by
  rw [selects_isIn_iff, selects_notIn_iff, not_or,
    Reading.among_eq_yes_iff, Reading.among_eq_no_iff]
  push Not
  constructor
  · rintro ⟨hNone, ⟨item, hItem, hUnsure⟩, hDatum⟩
    refine ⟨?_, hDatum,
      fun other hOther _ => hNone other hOther⟩
    by_contra hNull
    have hOther : item ≠ .null := by
      rintro rfl
      exact hNull hItem
    rcases (Reading.compare_ne_yes_iff hOther).mp
        (hNone item hItem) with
      hNo | hUnknown
    · exact hUnsure hNo
    · exact hDatum hUnknown
  · rintro ⟨hNull, hDatum, hNone⟩
    have hUnknown :
        reading.compare .eq term (.value .null) = .unknown :=
      Reading.compare_eq_unknown_iff.mpr (.inr rfl)
    refine ⟨?_, ⟨.null, hNull, by simp [hUnknown]⟩, hDatum⟩
    intro item hItem
    by_cases hOther : item = .null
    · simp [hOther, hUnknown]
    · exact hNone item hItem hOther

/- A range is the conjunction of its bounds. -/
theorem truth_range (low high : Value) :
    ∃ inside above below,
      range.criterion term (.list [low, high]) = .ok inside ∧
        gte.criterion term low = .ok above ∧
        lte.criterion term high = .ok below ∧
        inside.truth reading.test =
          (above.truth reading.test).both
            (below.truth reading.test) :=
  ⟨_, _, _, rfl, rfl, rfl, rfl⟩

/-
  Negative lookups select what the positive ones do not. Of
  membership in a list this fails for the rows that hold a
  value and equal nothing in a list that holds null: no row
  is selected both ways, and these are selected in neither.
  A range selects as its two bounds do together, and a
  lookup fails only for values of another shape.
-/
theorem criterion_complements
    (reading : Reading α)
    (term : Term) :
    (∀ value,
        differs.Selects reading term value ↔
          ¬ exact.Selects reading term value) ∧
      (∀ flag,
        notIsNull.Selects reading term (.bool flag) ↔
          ¬ isNull.Selects reading term (.bool flag)) ∧
      (∀ items,
        ¬ (isIn.Selects reading term (.list items) ∧
            notIn.Selects reading term (.list items)) ∧
          ((¬ isIn.Selects reading term (.list items) ∧
              ¬ notIn.Selects reading term (.list items)) ↔
            .null ∈ items ∧
              reading.datum term ≠ none ∧
              ∀ item ∈ items, item ≠ .null →
                reading.compare .eq term (.value item) ≠
                  .yes) ∧
          (.null ∉ items →
            (notIn.Selects reading term (.list items) ↔
              ¬ isIn.Selects reading term (.list items)))) ∧
      (∀ low high,
        ∃ inside above below,
          range.criterion term (.list [low, high]) =
              .ok inside ∧
            gte.criterion term low = .ok above ∧
            lte.criterion term high = .ok below ∧
            inside.truth reading.test =
              (above.truth reading.test).both
                (below.truth reading.test)) ∧
      ∀ lookup value,
        (∃ fault,
            criterion lookup term value = .error fault) ↔
          ¬ lookup.Takes value := by
  refine ⟨selects_differs_iff, selects_notIsNull_iff, ?_,
    truth_range, fun _ _ => exists_criterion_eq_error_iff⟩
  intro items
  refine ⟨not_selects_isIn_and_notIn items,
    selects_neither_iff items, ?_⟩
  intro hNull
  have hSome :
      isIn.Selects reading term (.list items) ∨
        notIn.Selects reading term (.list items) := by
    by_contra hOther
    exact hNull
      ((selects_neither_iff items).mp (not_or.mp hOther)).1
  constructor
  · intro hNotIn hIn
    exact not_selects_isIn_and_notIn items ⟨hIn, hNotIn⟩
  · exact hSome.resolve_left

/- A row with one value, which equals literals like it. -/
private def ages : Reading Value where
  datum
    | .value .null => none
    | .value value => some value
    | _ => some (.int64 3)
  relates _ left right := left.equal right
  like _ _ := false
  datum_value := by
    intro value
    cases value <;> simp

/- Three is not in a list of five, but with null who knows. -/
theorem criterion_complements_ages :
    notIn.Selects ages (.bare "age") (.list [.int64 5]) ∧
      ¬ isIn.Selects ages (.bare "age")
          (.list [.int64 5, .null]) ∧
      ¬ notIn.Selects ages (.bare "age")
          (.list [.int64 5, .null]) := by
  have hLists :=
    (criterion_complements ages (.bare "age")).2.2.1
  have hFive :
      ages.compare .eq (.bare "age") (.value (.int64 5)) =
        .no := by
    decide +kernel
  constructor
  · apply ((hLists [.int64 5]).2.2 (by simp)).mpr
    rw [selects_isIn_iff, Reading.among_eq_yes_iff]
    simp [hFive]
  · apply (hLists [.int64 5, .null]).2.1.mpr
    refine ⟨by simp, by simp [ages, Term.bare], ?_⟩
    simp [hFive]

end Lookup

end Relmap
