import Relmap.Catalog.FilterTarget
import Relmap.Proofs.Catalog.Basic
import Relmap.Proofs.Text.Cut

/-
  Registered filter keys: which member and lookup a key is
  made of can be told from the key.

  Main declarations:
    * `Catalog.key_baseAndLookup`
    * `Catalog.baseAndLookup_key`
    * `Catalog.filterTarget?_isSome_iff`
-/

------------------------------------------------------------
-- Suffixes
------------------------------------------------------------

namespace Relmap

namespace Lookup

variable {lookup : Lookup}

/- What is read from a suffix is the lookup that has it. -/
theorem ofSuffix?_eq_some
    {text : String}
    (hLookup : ofSuffix? text = some lookup) :
    lookup.suffix = text ∧ lookup ≠ .exact := by
  unfold ofSuffix? at hLookup
  split at hLookup
  · cases hLookup
  · rename_i hText
    have hSuffix : lookup.suffix = text := by
      simpa using List.find?_some hLookup
    refine ⟨hSuffix, ?_⟩
    rintro rfl
    exact hText hSuffix.symm

theorem ofSuffix?_suffix
    (hExact : lookup ≠ .exact) :
    ofSuffix? lookup.suffix = some lookup := by
  cases lookup with
  | exact => exact absurd rfl hExact
  | _ => decide +kernel

/- No separator begins in a suffix, or half before it. -/
theorem not_separator_suffix
    (hExact : lookup ≠ .exact) :
    ¬ Text.separator <:+: '_' :: lookup.suffix.toList := by
  cases lookup with
  | exact => exact absurd rfl hExact
  | _ => decide +kernel

@[simp] theorem key_exact (base : String) :
    exact.key base = base :=
  rfl

theorem key_of_ne
    (hExact : lookup ≠ .exact)
    (base : String) :
    lookup.key base = base ++ "__" ++ lookup.suffix := by
  rw [key, if_neg hExact]

end Lookup

end Relmap

------------------------------------------------------------
-- Members And Lookups
------------------------------------------------------------

namespace Relmap

namespace Catalog

/- A key is the key of its lookup on its member. -/
theorem key_baseAndLookup (key : String) :
    (baseAndLookup key).2.key (baseAndLookup key).1 = key := by
  unfold baseAndLookup
  cases hCut : Text.cutLast? key with
  | none => rfl
  | some parts =>
      rcases parts with ⟨base, suffix⟩
      cases hLookup : Lookup.ofSuffix? suffix with
      | none => simp [hLookup]
      | some lookup =>
          rcases Lookup.ofSuffix?_eq_some hLookup with
            ⟨hSuffix, hExact⟩
          simp only [hLookup]
          rw [Lookup.key_of_ne hExact, hSuffix,
            ← Text.cutLast?_eq_some hCut]

/- Behind the last separator there may be a lookup. -/
theorem baseAndLookup_key_of_ne
    {lookup : Lookup}
    (hExact : lookup ≠ .exact)
    (base : String) :
    baseAndLookup (lookup.key base) = (base, lookup) := by
  rw [Lookup.key_of_ne hExact, baseAndLookup,
    Text.cutLast?_append base
      (Lookup.not_separator_suffix hExact)]
  simp only [Lookup.ofSuffix?_suffix hExact]

/- Member and lookup are read back from their key. -/
theorem baseAndLookup_key
    {member : String}
    (hMember : Text.IsSegment member)
    (lookup : Lookup) :
    baseAndLookup (lookup.key member) = (member, lookup) := by
  by_cases hExact : lookup = .exact
  · rw [hExact, Lookup.key_exact, baseAndLookup,
      Text.cutLast?_eq_none_iff.mpr hMember]
  · exact baseAndLookup_key_of_ne hExact member

/-
  A key is registered if its member is a field, or else a
  relation that is compared by itself.
-/
theorem filterTarget?_isSome_iff
    {catalog : Catalog}
    {model : Model}
    {key : String} :
    (catalog.filterTarget? model key).isSome = true ↔
      (model.field? (baseAndLookup key).1).isSome = true ∨
        ∃ relation,
          model.relation? (baseAndLookup key).1 =
              some relation ∧
            (catalog.relationTarget? relation
              (baseAndLookup key).1
              (baseAndLookup key).2).isSome = true := by
  unfold filterTarget?
  dsimp only
  cases hField : model.field? (baseAndLookup key).1 with
  | some field => simp
  | none =>
      cases model.relation? (baseAndLookup key).1 with
      | none => simp
      | some relation => simp

end Catalog

end Relmap

------------------------------------------------------------
-- Comparisons Of Relations
------------------------------------------------------------

namespace Relmap

namespace Catalog

variable {catalog : Catalog}
variable {relation : Relation}

/- The far side of a link is its forward key. -/
theorem relationTarget?_of_manyToMany
    {link : ManyToMany}
    (hKind : relation.kind = .manyToMany link)
    (member : String)
    (lookup : Lookup) :
    catalog.relationTarget? relation member lookup =
      some
        ⟨member, link.forwardKey, lookup,
          some ⟨link.through, link.backwardKey⟩⟩ := by
  simp only [relationTarget?, hKind]

/- That of a backward key is the key of its target. -/
theorem relationTarget?_of_backward
    {key : BackwardKey}
    {target : Model}
    {backing primary : Field}
    (hKind : relation.kind = .backward key)
    (hTarget : catalog.model? relation.target = some target)
    (hBacking :
      target.field? key.relationField = some backing)
    (hPrimary : target.primaryKey? = some primary)
    (member : String)
    (lookup : Lookup) :
    catalog.relationTarget? relation member lookup =
      some
        ⟨member, primary.column, lookup,
          some ⟨target.table, backing.column⟩⟩ := by
  simp only [relationTarget?, hKind, hTarget, hBacking,
    hPrimary, Option.bind_eq_bind, Option.bind_some]

end Catalog

end Relmap
