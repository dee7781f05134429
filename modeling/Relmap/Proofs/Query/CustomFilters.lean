import Mathlib.Data.List.Induction
import Relmap.Proofs.Catalog.FilterTarget
import Relmap.Query.CustomFilters

/-
  Custom filters, told by the names that were registered.

  A name covers itself and itself with the suffix of any
  lookup. If one name is another with a suffix then both
  cover a key, and the key belongs to the one that was
  registered last. With which lookup it compares can be told
  from the name and the key.

  Main declarations:
    * `Lookup.key_injective`
    * `CustomFilters.Covers`
    * `CustomFilters.IsLastCovering`
    * `CustomFilters.get?_register_of_key`
    * `CustomFilters.get?_register_of_not_covers`
    * `CustomFilters.get?_and_keys_ofNames`
-/

------------------------------------------------------------
-- Keys Of A Name
------------------------------------------------------------

namespace Relmap

namespace Lookup

theorem mem_all (lookup : Lookup) : lookup ∈ all := by
  cases lookup <;> decide

variable {lookup : Lookup}

/- A key with a suffix is longer than its name. -/
theorem key_eq_self_iff (name : String) :
    lookup.key name = name ↔ lookup = .exact := by
  constructor
  · intro hKey
    by_contra hExact
    have hLength := congrArg String.length hKey
    have hSeparator : "__".length = 2 := rfl
    rw [key_of_ne hExact, String.length_append,
      String.length_append] at hLength
    omega
  · rintro rfl
    exact key_exact name

/- Different lookups make different keys of a name. -/
theorem key_injective (name : String) :
    Function.Injective fun lookup : Lookup =>
      lookup.key name := by
  intro lookup other hKey
  change lookup.key name = other.key name at hKey
  by_cases hExact : lookup = .exact
  · rw [hExact, key_exact] at hKey
    rw [hExact, (key_eq_self_iff name).mp hKey.symm]
  · have hOther : other ≠ .exact := by
      intro hOther
      rw [hOther, key_exact, key_eq_self_iff] at hKey
      exact hExact hKey
    have hLookup :=
      Catalog.baseAndLookup_key_of_ne hExact name
    rw [hKey, Catalog.baseAndLookup_key_of_ne hOther name]
      at hLookup
    cases hLookup
    rfl

end Lookup

end Relmap

------------------------------------------------------------
-- What Is Registered
------------------------------------------------------------

namespace Relmap

namespace CustomFilters

variable {custom : CustomFilters}
variable {key : String}

/- A custom filter is found if its key is registered. -/
theorem contains_eq_isSome_get?
    (custom : CustomFilters)
    (key : String) :
    custom.contains key = (custom.get? key).isSome :=
  Std.TreeMap.contains_eq_isSome_getElem?

theorem get?_eq_none_of_contains
    (hCustom : custom.contains key = false) :
    custom.get? key = none := by
  rw [contains_eq_isSome_get?] at hCustom
  simpa using hCustom

/- The keys are those that are registered. -/
theorem mem_keys_iff :
    key ∈ custom.keys ↔ custom.contains key = true := by
  rw [← List.contains_iff_mem, keys, contains,
    Std.TreeMap.contains_keys]

theorem pairwise_keys (custom : CustomFilters) :
    custom.keys.Pairwise (· < ·) := by
  refine Std.TreeMap.ordered_keys.imp ?_
  intro first second hOrder
  exact compareOfLessAndEq_eq_lt.mp hOrder

end CustomFilters

end Relmap

------------------------------------------------------------
-- Registration Of A Name
------------------------------------------------------------

namespace Relmap

namespace CustomFilters

/- Some lookup makes the key of the name. -/
def Covers
    (name : String)
    (key : String) : Prop :=
  ∃ lookup : Lookup, lookup.key name = key

variable {custom : CustomFilters}
variable {name key : String}

theorem get?_registerKey
    (custom : CustomFilters)
    (name : String)
    (lookup : Lookup)
    (key : String) :
    (custom.registerKey name lookup).get? key =
      if lookup.key name = key then some ⟨name, lookup⟩
      else custom.get? key := by
  rw [get?, registerKey, Std.TreeMap.getElem?_insert]
  simp only [Std.compare_eq_iff_eq]
  rfl

/- Keys of other lookups leave a key as it was. -/
theorem get?_foldl_registerKey_of_ne
    {lookups : List Lookup}
    (hOther : ∀ lookup ∈ lookups, lookup.key name ≠ key) :
    (lookups.foldl
      (fun known lookup => known.registerKey name lookup)
      custom).get? key = custom.get? key := by
  induction lookups generalizing custom with
  | nil => rfl
  | cons first rest ih =>
      rcases List.forall_mem_cons.mp hOther with
        ⟨hFirst, hRest⟩
      rw [List.foldl_cons, ih hRest, get?_registerKey,
        if_neg hFirst]

/-
  The key of a lookup finds that lookup: none that is
  registered after it makes the same key.
-/
theorem get?_foldl_registerKey_of_mem
    {lookups : List Lookup}
    {lookup : Lookup}
    (hMember : lookup ∈ lookups) :
    (lookups.foldl
      (fun known lookup => known.registerKey name lookup)
      custom).get? (lookup.key name) =
        some ⟨name, lookup⟩ := by
  induction lookups generalizing custom with
  | nil => cases hMember
  | cons first rest ih =>
      rw [List.foldl_cons]
      by_cases hRest : lookup ∈ rest
      · exact ih hRest
      · have hFirst : lookup = first :=
          (List.mem_cons.mp hMember).resolve_right hRest
        have hOther :
            ∀ other ∈ rest,
              other.key name ≠ lookup.key name := by
          intro other hOther hKey
          rw [Lookup.key_injective name hKey] at hOther
          exact hRest hOther
        rw [get?_foldl_registerKey_of_ne hOther,
          get?_registerKey, hFirst, if_pos rfl]

/- A name takes over every key that it covers. -/
theorem get?_register_of_key
    (custom : CustomFilters)
    (name : String)
    (lookup : Lookup) :
    (custom.register name).get? (lookup.key name) =
      some ⟨name, lookup⟩ :=
  get?_foldl_registerKey_of_mem (Lookup.mem_all lookup)

/- All other keys stay as they were. -/
theorem get?_register_of_not_covers
    (hCovers : ¬ Covers name key) :
    (custom.register name).get? key = custom.get? key := by
  apply get?_foldl_registerKey_of_ne
  intro lookup _ hKey
  exact hCovers ⟨lookup, hKey⟩

end CustomFilters

end Relmap

------------------------------------------------------------
-- The Last Name That Covers A Key
------------------------------------------------------------

namespace Relmap

namespace CustomFilters

/-
  The name covers the key, and no name that was registered
  after it does.
-/
def IsLastCovering
    (names : List String)
    (name : String)
    (key : String) : Prop :=
  Covers name key ∧
    ∃ before after,
      names = before ++ name :: after ∧
        ∀ later ∈ after, ¬ Covers later key

variable {names : List String}
variable {name other key : String}

/- One more name is the last one if it covers the key. -/
theorem isLastCovering_concat_iff :
    IsLastCovering (names ++ [name]) other key ↔
      (Covers name key ∧ other = name) ∨
        (¬ Covers name key ∧
          IsLastCovering names other key) := by
  constructor
  · rintro ⟨hOther, before, after, hNames, hAfter⟩
    rcases List.eq_nil_or_concat after with
      rfl | ⟨front, last, rfl⟩
    · -- Nothing comes after it, so it is the new name.
      have hLast := (List.append_inj' hNames rfl).2
      cases hLast
      exact Or.inl ⟨hOther, rfl⟩
    · -- The new name comes after it, and so does not cover.
      have hSplit :
          names ++ [name] =
            (before ++ other :: front) ++ [last] := by
        simpa using hNames
      rcases List.append_inj' hSplit rfl with ⟨hFront, hLast⟩
      cases hLast
      rw [List.concat_eq_append, List.forall_mem_append]
        at hAfter
      exact Or.inr
        ⟨hAfter.2 name (List.mem_singleton_self name),
          hOther, before, front, hFront, hAfter.1⟩
  · rintro (⟨hCovers, rfl⟩ |
      ⟨hCovers, hOther, before, after, rfl, hAfter⟩)
    · exact ⟨hCovers, names, [], rfl, by simp⟩
    · refine ⟨hOther, before, after ++ [name], by simp, ?_⟩
      simpa [or_imp, forall_and] using ⟨hAfter, hCovers⟩

/- There is a last one if there is any. -/
theorem exists_isLastCovering_iff :
    (∃ name, IsLastCovering names name key) ↔
      ∃ name ∈ names, Covers name key := by
  constructor
  · rintro ⟨name, hCovers, before, after, rfl, _⟩
    exact ⟨name, by simp, hCovers⟩
  · rintro ⟨name, hMember, hCovers⟩
    -- From the end: the first name met that covers is found.
    induction names using List.reverseRecOn with
    | nil => cases hMember
    | append_singleton front last ih =>
        by_cases hLast : Covers last key
        · exact ⟨last, isLastCovering_concat_iff.mpr
            (Or.inl ⟨hLast, rfl⟩)⟩
        · have hFront : name ∈ front := by
            rcases List.mem_append.mp hMember with
              hFront | hOnly
            · exact hFront
            · rw [List.mem_singleton.mp hOnly] at hCovers
              exact absurd hCovers hLast
          rcases ih hFront with ⟨found, hFound⟩
          exact ⟨found, isLastCovering_concat_iff.mpr
            (Or.inr ⟨hLast, hFound⟩)⟩

end CustomFilters

end Relmap

------------------------------------------------------------
-- Registries
------------------------------------------------------------

namespace Relmap

namespace CustomFilters

/-
  Under each key stands the last of the names that covers it,
  with the lookup that makes the key of it.
-/
def IsRegistryOf
    (custom : CustomFilters)
    (names : List String) : Prop :=
  ∀ key filter,
    custom.get? key = some filter ↔
      filter.lookup.key filter.computed = key ∧
        IsLastCovering names filter.computed key

variable {custom : CustomFilters}
variable {names : List String}

theorem isRegistryOf_empty : empty.IsRegistryOf [] := by
  intro key filter
  have hNone : empty.get? key = none :=
    Std.TreeMap.getElem?_emptyc
  simp [hNone, IsLastCovering]

/- Registration of one more name. -/
theorem IsRegistryOf.register
    (hCustom : custom.IsRegistryOf names)
    (name : String) :
    (custom.register name).IsRegistryOf
      (names ++ [name]) := by
  intro key filter
  rw [isLastCovering_concat_iff]
  by_cases hCovers : Covers name key
  · rcases hCovers with ⟨lookup, rfl⟩
    rw [get?_register_of_key, Option.some.injEq]
    constructor
    · rintro rfl
      exact ⟨rfl, Or.inl ⟨⟨lookup, rfl⟩, rfl⟩⟩
    · rintro ⟨hKey, ⟨_, hName⟩ | ⟨hOther, _⟩⟩
      · rcases filter with ⟨computed, found⟩
        cases hName
        have hLookup : found = lookup :=
          Lookup.key_injective computed hKey
        rw [hLookup]
      · exact absurd ⟨lookup, rfl⟩ hOther
  · rw [get?_register_of_not_covers hCovers,
      hCustom key filter]
    simp [hCovers]

theorem ofNames_concat
    (names : List String)
    (name : String) :
    ofNames (names ++ [name]) =
      (ofNames names).register name := by
  rw [ofNames, List.foldl_append, List.foldl_cons,
    List.foldl_nil, ofNames]

theorem isRegistryOf_ofNames (names : List String) :
    (ofNames names).IsRegistryOf names := by
  induction names using List.reverseRecOn with
  | nil => exact isRegistryOf_empty
  | append_singleton front last ih =>
      rw [ofNames_concat]
      exact ih.register last

/- A key is registered if some name covers it. -/
theorem IsRegistryOf.isSome_get?_iff
    (hCustom : custom.IsRegistryOf names)
    {key : String} :
    (custom.get? key).isSome = true ↔
      ∃ name ∈ names, Covers name key := by
  rw [← exists_isLastCovering_iff, Option.isSome_iff_exists]
  constructor
  · rintro ⟨filter, hFilter⟩
    exact ⟨filter.computed, ((hCustom key filter).mp hFilter).2⟩
  · rintro ⟨name, hLast⟩
    rcases hLast.1 with ⟨lookup, hKey⟩
    exact ⟨⟨name, lookup⟩,
      (hCustom key ⟨name, lookup⟩).mpr ⟨hKey, hLast⟩⟩

/-
  The registry of names in any order, repeated or not, is the
  set of their keys, and tells of each the name that was
  registered last and its lookup.
-/
theorem get?_and_keys_ofNames (names : List String) :
    (∀ key,
      ((ofNames names).get? key).isSome = true ↔
        ∃ name ∈ names, ∃ lookup : Lookup,
          lookup.key name = key) ∧
    (∀ key filter,
      (ofNames names).get? key = some filter ↔
        filter.lookup.key filter.computed = key ∧
          IsLastCovering names filter.computed key) ∧
    (∀ key,
      (ofNames names).contains key =
        ((ofNames names).get? key).isSome) ∧
    (∀ key,
      key ∈ (ofNames names).keys ↔
        ∃ name ∈ names, ∃ lookup : Lookup,
          lookup.key name = key) ∧
    (ofNames names).keys.Pairwise (· < ·) := by
  have hRegistry := isRegistryOf_ofNames names
  refine ⟨fun key => hRegistry.isSome_get?_iff, hRegistry,
    contains_eq_isSome_get? _, ?_, pairwise_keys _⟩
  intro key
  rw [mem_keys_iff, contains_eq_isSome_get?]
  exact hRegistry.isSome_get?_iff

/- The name that comes later takes the key over. -/
example :
    (ofNames ["year", "year__in"]).get? "year__in" =
        some ⟨"year__in", .exact⟩ ∧
      (ofNames ["year", "year__in", "year"]).get? "year__in" =
        some ⟨"year", .isIn⟩ := by
  decide +kernel

end CustomFilters

end Relmap
