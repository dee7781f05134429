import Relmap.Proofs.Query.Acceptance

/-
  How a member that is registered is compared.

  If names are plain, and distinct in each model, then a key
  of a member is registered with every lookup, and nothing
  comes before it unless a custom filter has its name. Its
  comparison needs the joins of the member and no others.

  Main declarations:
    * `Catalog.HasDistinctMembers`
    * `Lookup.modifier`
    * `Catalog.HasPlainNames.exists_suffix_of_hop`
    * `Context.Registers`
    * `Context.Registers.resolveWithin`
-/

------------------------------------------------------------
-- Comparisons
------------------------------------------------------------

namespace Relmap

/- The fields and relations of a model have distinct names. -/
def Catalog.HasDistinctMembers (catalog : Catalog) : Prop :=
  ∀ model ∈ catalog.models,
    (model.fields.map Field.name ++
      model.relations.map Relation.name).Nodup

instance (catalog : Catalog) :
    Decidable catalog.HasDistinctMembers :=
  inferInstanceAs
    (Decidable (∀ model ∈ catalog.models,
      (model.fields.map Field.name ++
        model.relations.map Relation.name).Nodup))

/- Equality with null is resolved as a test for null. -/
def Lookup.rewrite
    (lookup : Lookup)
    (value : Value) : Lookup × Value :=
  if lookup = .exact ∧ value.isNull = true then
    (.isNull, .bool true)
  else (lookup, value)

/- The expression of a comparison with any value. -/
def Lookup.comparison
    (lookup : Lookup)
    (value : Value)
    (term : Term) : Except Error Criterion :=
  let (actual, operand) := lookup.rewrite value
  actual.criterion term operand

/- The modifier of a comparison that needs some joins. -/
def Lookup.modifier
    (lookup : Lookup)
    (value : Value)
    (joins : List Join)
    (term : Term) : Except Error Modifier := do
  let criterion ← lookup.comparison value term
  return (Modifier.ofJoins joins).withPredicate criterion

end Relmap

------------------------------------------------------------
-- Names And Keys
------------------------------------------------------------

namespace Relmap

namespace Lookup

variable {lookup : Lookup}

/- The key of a lookup behind a hop is behind the hop. -/
theorem key_append (head base : String) :
    lookup.key (head ++ "__" ++ base) =
      head ++ "__" ++ lookup.key base := by
  unfold key
  split
  · rfl
  · simp only [String.append_assoc]

/- A suffix holds no separator, and half of one makes none. -/
theorem isSegment_suffix
    (hExact : lookup ≠ .exact) :
    Text.IsSegment lookup.suffix ∧
      Text.IsSegment ("_" ++ lookup.suffix) := by
  have hNone := not_separator_suffix hExact
  constructor
  · intro hInfix
    exact hNone (hInfix.trans (List.suffix_cons _ _).isInfix)
  · intro hInfix
    exact hNone (by simpa using hInfix)

/- A comparison behind joins is one that needs the joins. -/
theorem modifier_nil_and
    (value : Value)
    (joins : List Join)
    (term : Term) :
    (do
        let nested ← lookup.modifier value [] term
        return (Modifier.ofJoins joins).and nested) =
      lookup.modifier value joins term := by
  unfold modifier
  cases lookup.comparison value term with
  | error fault => rfl
  | ok criterion =>
      simp only [bind, Except.bind, pure, Except.pure,
        Modifier.ofJoins_and]
      simp [Modifier.ofJoins, Modifier.withPredicate]

theorem not_isSegment_key
    (hExact : lookup ≠ .exact)
    (base : String) :
    ¬ Text.IsSegment (lookup.key base) := by
  rw [key_of_ne hExact]
  exact Text.not_isSegment_append base lookup.suffix

end Lookup

namespace Catalog

variable {catalog : Catalog}
variable {model : Model}
variable {key : String}

/- With plain names nothing but a segment is found. -/
theorem HasPlainNames.field?_eq_none
    (hNames : catalog.HasPlainNames)
    (hModel : model ∈ catalog.models)
    (hKey : ¬ Text.IsSegment key) :
    model.field? key = none := by
  cases hField : model.field? key with
  | none => rfl
  | some field =>
      rcases Model.field?_eq_some hField with ⟨hMember, rfl⟩
      exact absurd (hNames.field model hModel field hMember)
        hKey

theorem HasPlainNames.relation?_eq_none
    (hNames : catalog.HasPlainNames)
    (hModel : model ∈ catalog.models)
    (hKey : ¬ Text.IsSegment key) :
    model.relation? key = none := by
  cases hRelation : model.relation? key with
  | none => rfl
  | some relation =>
      rcases Model.relation?_eq_some hRelation with
        ⟨hMember, rfl⟩
      exact absurd
        (hNames.relation model hModel relation hMember).1 hKey

/-
  A registered key is a lookup on a plain name, and only the
  name of a field may end in half of a separator.
-/
theorem HasPlainNames.exists_base
    (hNames : catalog.HasPlainNames)
    (hModel : model ∈ catalog.models)
    (hSome :
      (catalog.filterTarget? model key).isSome = true) :
    ∃ base lookup,
      Lookup.key lookup base = key ∧
        Text.IsSegment base ∧
        (Text.EndsInHalf base →
          base ∈ model.fields.map Field.name) := by
  refine ⟨_, _, key_baseAndLookup key, ?_⟩
  rcases filterTarget?_isSome_iff.mp hSome with
    hField | ⟨relation, hRelation, _⟩
  · rw [Model.field?_isSome_iff] at hField
    rcases List.mem_map.mp hField with ⟨field, hOwn, hSame⟩
    rw [← hSame] at hField ⊢
    exact ⟨hNames.field model hModel field hOwn,
      fun _ => hField⟩
  · rcases Model.relation?_eq_some hRelation with
      ⟨hOwn, hSame⟩
    rcases hNames.relation model hModel relation hOwn with
      ⟨hSegment, hEnd⟩
    rw [hSame] at hSegment hEnd
    exact ⟨hSegment, fun hHalf => absurd hHalf hEnd⟩

/-
  What follows a hop in a registered key is a suffix, behind
  the other half of a separator if a field took the first.
-/
theorem HasPlainNames.exists_suffix_of_hop
    (hNames : catalog.HasPlainNames)
    (hModel : model ∈ catalog.models)
    {relation : Relation}
    (hRelation : relation ∈ model.relations)
    {rest : String}
    (hSome :
      (catalog.filterTarget? model
        (relation.name ++ "__" ++ rest)).isSome = true) :
    ∃ lookup : Lookup,
      lookup ≠ .exact ∧
        (rest = lookup.suffix ∨
          relation.name ++ "_" ∈
              model.fields.map Field.name ∧
            rest = "_" ++ lookup.suffix) := by
  rcases hNames.relation model hModel relation hRelation with
    ⟨hSegment, hEnd⟩
  rcases hNames.exists_base hModel hSome with
    ⟨base, lookup, hKey, hBase, hHalf⟩
  have hLookup : lookup ≠ .exact := by
    rintro rfl
    rw [Lookup.key_exact] at hKey
    rw [hKey] at hBase
    exact Text.not_isSegment_append _ _ hBase
  rw [Lookup.key_of_ne hLookup] at hKey
  refine ⟨lookup, hLookup, ?_⟩
  rcases Text.eq_or_half_of_append hBase hSegment hEnd hKey
    with ⟨_, hRest⟩ | ⟨rfl, hRest⟩
  · exact .inl hRest.symm
  · exact .inr
      ⟨hHalf ⟨relation.name.toList, by simp⟩, hRest⟩

/- A lookup on a key with a lookup is not registered. -/
theorem HasPlainNames.filterTarget?_isNull
    (hNames : catalog.HasPlainNames)
    (hModel : model ∈ catalog.models)
    {lookup : Lookup}
    (hExact : lookup ≠ .exact)
    (base : String) :
    catalog.filterTarget? model
      (Lookup.isNull.key (lookup.key base)) = none := by
  have hKey := Lookup.not_isSegment_key hExact base
  rw [filterTarget?, baseAndLookup_key_of_ne (by decide)]
  simp only [hNames.field?_eq_none hModel hKey,
    hNames.relation?_eq_none hModel hKey, Option.bind_none]

variable {relation : Relation}

/- With distinct names fields and relations are found. -/
theorem HasDistinctMembers.relation?_of_mem
    (hDistinct : catalog.HasDistinctMembers)
    (hModel : model ∈ catalog.models)
    (hRelation : relation ∈ model.relations) :
    model.relation? relation.name = some relation :=
  Model.relation?_of_mem
    (List.nodup_append.mp (hDistinct model hModel)).2.1
    hRelation

theorem HasDistinctMembers.field?_of_mem
    (hDistinct : catalog.HasDistinctMembers)
    (hModel : model ∈ catalog.models)
    {field : Field}
    (hField : field ∈ model.fields) :
    model.field? field.name = some field :=
  Model.field?_of_mem
    (List.nodup_append.mp (hDistinct model hModel)).1 hField

/- And no name is that of one of each. -/
theorem HasDistinctMembers.relation?_field
    (hDistinct : catalog.HasDistinctMembers)
    (hModel : model ∈ catalog.models)
    {field : Field}
    (hField : field ∈ model.fields) :
    model.relation? field.name = none := by
  have hOther :=
    (List.nodup_append.mp (hDistinct model hModel)).2.2
      field.name (List.mem_map_of_mem hField)
  rw [← Option.not_isSome_iff_eq_none,
    Model.relation?_isSome_iff]
  exact fun hRelation => hOther field.name hRelation rfl

theorem HasDistinctMembers.field?_relation
    (hDistinct : catalog.HasDistinctMembers)
    (hModel : model ∈ catalog.models)
    (hRelation : relation ∈ model.relations) :
    model.field? relation.name = none := by
  rw [← Option.not_isSome_iff_eq_none, Model.field?_isSome_iff]
  intro hField
  exact (List.nodup_append.mp (hDistinct model hModel)).2.2
    relation.name hField relation.name
    (List.mem_map_of_mem hRelation) rfl

end Catalog

end Relmap

------------------------------------------------------------
-- Registered Members
------------------------------------------------------------

namespace Relmap

namespace Context

variable {context : Context}
variable {model : Model}
variable {member column : String}
variable {join : Option FilterJoin}

/- A member is registered with all lookups. -/
def Registers
    (context : Context)
    (model : Model)
    (member : String)
    (column : String)
    (join : Option FilterJoin) : Prop :=
  ∀ lookup : Lookup,
    context.catalog.filterTarget? model (lookup.key member) =
      some ⟨member, column, lookup, join⟩

/- Its comparison with null is a test for null. -/
theorem Registers.directTarget
    (hRegisters : context.Registers model member column join)
    (hNames : context.catalog.HasPlainNames)
    (hModel : model ∈ context.catalog.models)
    (lookup : Lookup)
    (value : Value) :
    context.directTarget model (lookup.key member) value =
      .ok
        (⟨member, column, (lookup.rewrite value).1, join⟩,
          (lookup.rewrite value).2) := by
  unfold Context.directTarget Lookup.rewrite
  by_cases hExact : lookup = .exact
  · subst hExact
    have hNull := hRegisters .isNull
    have hSelf := hRegisters .exact
    rw [Lookup.key_exact] at hSelf
    cases hValue : value.isNull with
    | true => simp [hNull]
    | false => simp [hNull, hSelf]
  · have hNone :=
      hNames.filterTarget?_isNull hModel hExact member
    simp [hNone, hRegisters lookup, hExact]

/- Nothing comes before a member that is registered. -/
theorem Registers.resolveWithin
    (hRegisters : context.Registers model member column join)
    (hNames : context.catalog.HasPlainNames)
    (hModel : model ∈ context.catalog.models)
    (hSource :
      ∀ relation, model.relation? member = some relation →
        relation.sourceField? = none)
    {joins : List Join}
    (hJoins :
      ∀ lookup,
        targetJoins model ⟨member, column, lookup, join⟩ =
          .ok joins)
    {lookup : Lookup}
    (hCustom :
      context.custom.contains (lookup.key member) = false)
    (value : Value)
    (steps : Nat) :
    context.resolveWithin value (steps + 1) model
        (lookup.key member) =
      lookup.modifier value joins
        (.qualified
          (FilterTarget.table ⟨member, column, lookup, join⟩
            model.table) column) := by
  have hSome :
      (context.catalog.filterTarget? model
        (lookup.key member)).isSome = true := by
    rw [hRegisters lookup]
    rfl
  have hBacking :
      context.backingKey model (lookup.key member) =
        .ok (lookup.key member) := by
    unfold backingKey
    cases hRelation :
        model.relation? (lookup.key member) with
    | none => simp [accepts, hSome]
    | some relation =>
        by_cases hExact : lookup = .exact
        · subst hExact
          rw [Lookup.key_exact] at hRelation ⊢
          simp [hSource relation hRelation]
        · rw [hNames.relation?_eq_none hModel
            (Lookup.not_isSegment_key hExact member)]
              at hRelation
          cases hRelation
  have hGet :=
    CustomFilters.get?_eq_none_of_contains hCustom
  have hHop :
      context.hop? model (lookup.key member) = none := by
    rw [hop?, if_pos hSome]
  unfold Context.resolveWithin resolveDirect Lookup.modifier
  simp only [hBacking, bind, Except.bind, hGet, hHop,
    hRegisters.directTarget hNames hModel, hJoins]
  rfl

/- The key of a model is registered without a join. -/
theorem registers_field
    (hNames : context.catalog.HasPlainNames)
    (hDistinct : context.catalog.HasDistinctMembers)
    (hModel : model ∈ context.catalog.models)
    {field : Field}
    (hField : field ∈ model.fields) :
    context.Registers model field.name field.column none := by
  intro lookup
  have hSegment := hNames.field model hModel field hField
  unfold Catalog.filterTarget?
  simp only [Catalog.baseAndLookup_key hSegment,
    hDistinct.field?_of_mem hModel hField]

/- The key of a relation stands for what it compares. -/
theorem filterTarget?_relation
    (hNames : context.catalog.HasPlainNames)
    (hDistinct : context.catalog.HasDistinctMembers)
    (hModel : model ∈ context.catalog.models)
    {relation : Relation}
    (hRelation : relation ∈ model.relations)
    (lookup : Lookup) :
    context.catalog.filterTarget? model
        (lookup.key relation.name) =
      context.catalog.relationTarget? relation relation.name
        lookup := by
  have hSegment :=
    (hNames.relation model hModel relation hRelation).1
  unfold Catalog.filterTarget?
  simp only [Catalog.baseAndLookup_key hSegment,
    hDistinct.field?_relation hModel hRelation,
    hDistinct.relation?_of_mem hModel hRelation,
    Option.bind_some]

/- A relation is registered with what it is compared on. -/
theorem registers_relation
    (hNames : context.catalog.HasPlainNames)
    (hDistinct : context.catalog.HasDistinctMembers)
    (hModel : model ∈ context.catalog.models)
    {relation : Relation}
    (hRelation : relation ∈ model.relations)
    (hTarget :
      ∀ lookup,
        context.catalog.relationTarget? relation relation.name
            lookup =
          some ⟨relation.name, column, lookup, join⟩) :
    context.Registers model relation.name column join := by
  intro lookup
  rw [filterTarget?_relation hNames hDistinct hModel hRelation]
  exact hTarget lookup

end Context

end Relmap
