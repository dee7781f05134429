import Relmap.Catalog.FieldType

/-
  What a field type has from its ancestors.

  A setting is anything that a type may have by itself, such
  as a length, or a template for its name. A type without it
  has it from the type that it extends, and so on, so what
  extends a type without a setting of its own leaves it as
  it is.

  Main declarations:
    * `FieldType.base_induction`
    * `FieldType.Sets`
    * `FieldType.Inherits`
    * `FieldType.inherits_iff`
    * `FieldType.extendedBy`
    * `FieldType.findSome?_lineage_extend`
-/

------------------------------------------------------------
-- Lineages
------------------------------------------------------------

namespace Relmap

namespace FieldType

variable {type base : FieldType}

/- A type that extends nothing has no ancestors. -/
theorem lineage_of_root
    (hBase : type.base = none) :
    type.lineage = [type] := by
  rcases type with ⟨name, base, maxLength, decimal⟩
  cases hBase
  rfl

/- The ancestors of a type are those of its base, and it. -/
theorem lineage_of_base
    (hBase : type.base = some base) :
    type.lineage = type :: base.lineage := by
  rcases type with ⟨name, own, maxLength, decimal⟩
  cases hBase
  rfl

/- A root has its own name only. -/
theorem isA_of_root
    {name : String}
    (hBase : type.base = none) :
    type.isA name = decide (type.name = name) := by
  rw [isA, lineage_of_root hBase, List.any_cons,
    List.any_nil, Bool.or_false]

/- Any other type is also what its base is. -/
theorem isA_of_base
    {name : String}
    (hBase : type.base = some base) :
    type.isA name =
      (decide (type.name = name) || base.isA name) := by
  rw [isA, lineage_of_base hBase, List.any_cons]
  rfl

/- An induction from the root of a type to the type. -/
theorem base_induction
    {motive : FieldType → Prop}
    (root : ∀ type, type.base = none → motive type)
    (extension :
      ∀ type base, type.base = some base → motive base →
        motive type)
    (type : FieldType) :
    motive type := by
  induction type using FieldType.lineage.induct with
  | case1 name maxLength decimal => exact root _ rfl
  | case2 name base maxLength decimal ih =>
      exact extension _ base rfl ih

end FieldType

end Relmap

------------------------------------------------------------
-- Settings
------------------------------------------------------------

namespace Relmap

namespace FieldType

variable {α : Type}
variable {setting : FieldType → Option α}
variable {type : FieldType}
variable {value : α}

/- The type or one of its ancestors has the setting. -/
def Sets
    (type : FieldType)
    (setting : FieldType → Option α) : Prop :=
  ∃ ancestor ∈ type.lineage,
    (setting ancestor).isSome = true

/-
  A type inherits the value that it has itself, and only if
  it has none what the type inherits that it extends.
-/
inductive Inherits
    (setting : FieldType → Option α) :
    FieldType → α → Prop where
  | own {type : FieldType} {value : α}
      (hOwn : setting type = some value) :
      Inherits setting type value
  | base {type base : FieldType} {value : α}
      (hBase : type.base = some base)
      (hOwn : setting type = none)
      (hInherits : Inherits setting base value) :
      Inherits setting type value

/- A root has no more than its own setting. -/
theorem findSome?_lineage_of_root
    (hBase : type.base = none) :
    type.lineage.findSome? setting = setting type := by
  rw [lineage_of_root hBase, List.findSome?_singleton]

/- The search goes from a type to the type that it extends. -/
theorem findSome?_lineage_of_base
    {base : FieldType}
    (hBase : type.base = some base) :
    type.lineage.findSome? setting =
      (setting type).or
        (base.lineage.findSome? setting) := by
  rw [lineage_of_base hBase, List.findSome?_cons]
  cases setting type <;> rfl

/- What a type inherits is found first in its lineage. -/
theorem inherits_iff :
    type.Inherits setting value ↔
      type.lineage.findSome? setting = some value := by
  constructor
  · intro hInherits
    induction hInherits with
    | @own type value hOwn =>
        cases hBase : type.base with
        | none =>
            rw [findSome?_lineage_of_root hBase, hOwn]
        | some base =>
            rw [findSome?_lineage_of_base hBase, hOwn,
              Option.some_or]
    | base hBase hOwn _ ih =>
        rw [findSome?_lineage_of_base hBase, hOwn,
          Option.none_or, ih]
  · induction type using base_induction with
    | root type hBase =>
        rw [findSome?_lineage_of_root hBase]
        exact Inherits.own
    | extension type base hBase ih =>
        rw [findSome?_lineage_of_base hBase,
          Option.or_eq_some_iff]
        rintro (hOwn | ⟨hOwn, hFound⟩)
        · exact .own hOwn
        · exact .base hBase hOwn (ih hFound)

/- A type has a setting exactly if it inherits some value. -/
theorem exists_inherits_iff :
    (∃ value, type.Inherits setting value) ↔
      type.Sets setting := by
  simp only [inherits_iff]
  rw [← Option.isSome_iff_exists,
    List.findSome?_isSome_iff]
  rfl

/- What a type inherits one of its lineage has itself. -/
theorem Inherits.exists_mem
    (hInherits : type.Inherits setting value) :
    ∃ ancestor ∈ type.lineage,
      setting ancestor = some value :=
  List.exists_of_findSome?_eq_some
    (inherits_iff.mp hInherits)

end FieldType

end Relmap

------------------------------------------------------------
-- Extensions
------------------------------------------------------------

namespace Relmap

namespace FieldType

/- A type extended under each of the names, the last first. -/
def extendedBy
    (type : FieldType)
    (names : List String) : FieldType :=
  names.foldr extend type

variable {α : Type}
variable {setting : FieldType → Option α}

/- An extension without a setting passes on that of its base. -/
theorem findSome?_lineage_extend
    {name : String}
    {base : FieldType}
    (hOwn : setting (extend name base) = none) :
    (extend name base).lineage.findSome? setting =
      base.lineage.findSome? setting := by
  rw [findSome?_lineage_of_base rfl, hOwn, Option.none_or]

/- An extension is what its base is, and by its own name. -/
theorem isA_extend
    (name other : String)
    (base : FieldType) :
    (extend name base).isA other =
      (decide (name = other) || base.isA other) :=
  isA_of_base rfl

end FieldType

end Relmap
