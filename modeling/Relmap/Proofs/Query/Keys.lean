import Relmap.Proofs.Catalog.FilterTarget
import Relmap.Proofs.Query.CustomFilters
import Relmap.Proofs.Query.Join
import Relmap.Query.Resolve

/-
  Filter keys have a grammar.

  A key names a field, a relation or a custom filter, or it
  hops along a relation to a key of the target. With plain
  names a key can be read in no other way: it names something
  of the model itself, or its first hop is its first segment.

  Main declarations:
    * `Context.IsKey`
    * `Catalog.Strips`
    * `Catalog.HasPlainNames`
    * `Context.IsKey.knows_or_step`
    * `Context.isKey_of_knows`
-/

------------------------------------------------------------
-- Grammar
------------------------------------------------------------

namespace Relmap

/-
  The keys of a model, where a relation counts as one of the
  model if `Has` says so.
-/
inductive Context.IsKey
    (context : Context)
    (Has : Model → Relation → Prop) :
    Model → String → Prop where
  | field {model : Model} {field : Field}
      (lookup : Lookup)
      (hField : field ∈ model.fields) :
      IsKey context Has model (lookup.key field.name)
  | relation {model : Model} {relation : Relation}
      (lookup : Lookup)
      (hRelation : Has model relation)
      (hKind : relation.foreignKey? = none) :
      IsKey context Has model (lookup.key relation.name)
  | foreignKey {model : Model} {relation : Relation}
      (hRelation : Has model relation)
      (hKind : relation.foreignKey?.isSome = true) :
      IsKey context Has model relation.name
  | custom {model : Model} {key : String}
      (hCustom : context.custom.contains key = true) :
      IsKey context Has model key
  | hop {model target : Model} {relation : Relation}
      {key : String}
      (hRelation : Has model relation)
      (hTarget :
        context.catalog.model? relation.target = some target)
      (hKey : IsKey context Has target key) :
      IsKey context Has model (relation.name ++ "__" ++ key)

/-
  The relation is the one that the model has under its name.
  Of several with one name that is the first.
-/
def Model.Has
    (model : Model)
    (relation : Relation) : Prop :=
  model.relation? relation.name = some relation

/-
  The relation that the first segment of a key names, and
  what follows that segment.
-/
def Model.step?
    (model : Model)
    (key : String) : Option (Relation × String) := do
  let (head, rest) ← Text.cutFirst? key
  let relation ← model.relation? head
  return (relation, rest)

/-
  The model that is reached and the key that is left when
  segments are stripped off as long as they name a relation.
-/
inductive Catalog.Strips
    (catalog : Catalog) :
    Model → String → Model → String → Prop where
  | stop {model : Model} {key : String}
      (hStop : model.step? key = none) :
      Strips catalog model key model key
  | hop {model target reached : Model}
      {relation : Relation}
      {key rest left : String}
      (hStep : model.step? key = some (relation, rest))
      (hTarget :
        catalog.model? relation.target = some target)
      (hRest : Strips catalog target rest reached left) :
      Strips catalog model key reached left

/-
  Names hold no separator, and those of relations do not end
  in half of one.
-/
structure Catalog.HasPlainNames
    (catalog : Catalog) : Prop where
  field :
    ∀ model ∈ catalog.models,
      ∀ field ∈ model.fields, Text.IsSegment field.name
  relation :
    ∀ model ∈ catalog.models,
      ∀ relation ∈ model.relations,
        Text.IsSegment relation.name ∧
          ¬ Text.EndsInHalf relation.name

instance (catalog : Catalog) :
    Decidable catalog.HasPlainNames :=
  decidable_of_iff
    ((∀ model ∈ catalog.models,
        ∀ field ∈ model.fields, Text.IsSegment field.name) ∧
      ∀ model ∈ catalog.models,
        ∀ relation ∈ model.relations,
          Text.IsSegment relation.name ∧
            ¬ Text.EndsInHalf relation.name)
    ⟨fun hNames => ⟨hNames.1, hNames.2⟩,
      fun hNames => ⟨hNames.field, hNames.relation⟩⟩

end Relmap

------------------------------------------------------------
-- Steps
------------------------------------------------------------

namespace Relmap

namespace Model

variable {model : Model}
variable {relation : Relation}
variable {key rest : String}

/- What is found under a name has that name. -/
theorem has_of_relation?_eq_some
    {name : String}
    (hRelation : model.relation? name = some relation) :
    model.Has relation := by
  rw [Has, (relation?_eq_some hRelation).2]
  exact hRelation

theorem step?_eq_some_iff :
    model.step? key = some (relation, rest) ↔
      ∃ head,
        Text.cutFirst? key = some (head, rest) ∧
          model.relation? head = some relation := by
  unfold step?
  constructor
  · intro hStep
    rcases Option.bind_eq_some_iff.mp hStep with
      ⟨⟨head, tail⟩, hCut, hNext⟩
    rcases Option.bind_eq_some_iff.mp hNext with
      ⟨found, hFound, hPair⟩
    cases hPair
    exact ⟨head, hCut, hFound⟩
  · rintro ⟨head, hCut, hRelation⟩
    have hNext :
        ((model.relation? head).bind fun found =>
          some (found, rest)) = some (relation, rest) := by
      rw [hRelation]
      rfl
    exact Option.bind_eq_some_iff.mpr
      ⟨(head, rest), hCut, hNext⟩

/- A step takes the name of its relation off the key. -/
theorem step?_eq_some
    (hStep : model.step? key = some (relation, rest)) :
    key = relation.name ++ "__" ++ rest ∧
      model.Has relation ∧ relation ∈ model.relations := by
  rcases step?_eq_some_iff.mp hStep with ⟨head, hCut, hRelation⟩
  rcases relation?_eq_some hRelation with ⟨hMember, hName⟩
  have hKey := Text.cutFirst?_eq_some hCut
  rw [← hName] at hKey
  exact ⟨hKey, has_of_relation?_eq_some hRelation, hMember⟩

/- So what is left is shorter. -/
theorem length_lt_of_step?
    (hStep : model.step? key = some (relation, rest)) :
    rest.length < key.length := by
  rcases step?_eq_some hStep with ⟨hKey, _⟩
  have hSeparator : "__".length = 2 := rfl
  rw [hKey, String.length_append, String.length_append]
  omega

/- A plain relation in front of a key is a step. -/
theorem step?_append
    (hHas : model.Has relation)
    (hSegment : Text.IsSegment relation.name)
    (hEnd : ¬ Text.EndsInHalf relation.name)
    (rest : String) :
    model.step? (relation.name ++ "__" ++ rest) =
      some (relation, rest) := by
  rw [step?_eq_some_iff]
  exact ⟨relation.name,
    Text.cutFirst?_append hSegment hEnd rest, hHas⟩

end Model

end Relmap

------------------------------------------------------------
-- Keys Without A Hop
------------------------------------------------------------

namespace Relmap

namespace Context

/- The key names something of the model itself. -/
def Knows
    (context : Context)
    (model : Model)
    (key : String) : Prop :=
  (model.relation? key).isSome = true ∨
    context.custom.contains key = true ∨
      (context.catalog.filterTarget? model key).isSome = true

variable {context : Context}
variable {model : Model}
variable {key : String}

/- A field with a plain name is compared by itself. -/
theorem filterTarget?_of_field
    (hNames : context.catalog.HasPlainNames)
    (hModel : model ∈ context.catalog.models)
    {field : Field}
    (hField : field ∈ model.fields)
    (lookup : Lookup) :
    (context.catalog.filterTarget? model
      (lookup.key field.name)).isSome = true := by
  have hSegment := hNames.field model hModel field hField
  rw [Catalog.filterTarget?_isSome_iff,
    Catalog.baseAndLookup_key hSegment]
  left
  rw [Model.field?_isSome_iff]
  exact List.mem_map_of_mem hField

/- So is a relation that is no foreign key. -/
theorem filterTarget?_of_relation
    (hLinked : context.catalog.IsLinked)
    (hNames : context.catalog.HasPlainNames)
    (hModel : model ∈ context.catalog.models)
    {relation : Relation}
    (hHas : model.Has relation)
    (hFollow : context.catalog.IsFollowable relation)
    (hKind : relation.foreignKey? = none)
    (lookup : Lookup) :
    (context.catalog.filterTarget? model
      (lookup.key relation.name)).isSome = true := by
  have hMember := (Model.relation?_eq_some hHas).1
  have hSegment :=
    (hNames.relation model hModel relation hMember).1
  rw [Catalog.filterTarget?_isSome_iff,
    Catalog.baseAndLookup_key hSegment]
  refine .inr ⟨relation, hHas, ?_⟩
  unfold Relation.foreignKey? at hKind
  cases hRelation : relation.kind with
  | foreignKey key =>
      rw [hRelation] at hKind
      cases hKind
  | backward key =>
      rcases hFollow key hRelation with
        ⟨target, hTarget, hField⟩
      rcases Option.isSome_iff_exists.mp hField with
        ⟨backing, hBacking⟩
      have hKey :=
        hLinked.keyed target (Catalog.model?_eq_some hTarget).1
      rcases Option.isSome_iff_exists.mp hKey with
        ⟨primary, hPrimary⟩
      rw [Catalog.relationTarget?_of_backward hRelation hTarget
        hBacking hPrimary]
      rfl
  | manyToMany link =>
      rw [Catalog.relationTarget?_of_manyToMany hRelation]
      rfl

/- What is compared by itself is a field or a relation. -/
theorem isKey_of_filterTarget?
    (hTarget :
      (context.catalog.filterTarget? model key).isSome =
        true) :
    context.IsKey Model.Has model key := by
  rw [← Catalog.key_baseAndLookup key]
  rcases Catalog.filterTarget?_isSome_iff.mp hTarget with
    hField | ⟨relation, hRelation, hCompared⟩
  · rcases Option.isSome_iff_exists.mp hField with
      ⟨field, hField⟩
    rcases Model.field?_eq_some hField with ⟨hMember, hName⟩
    rw [← hName]
    exact .field _ hMember
  · rcases Model.relation?_eq_some hRelation with ⟨_, hName⟩
    have hHas := Model.has_of_relation?_eq_some hRelation
    have hKind : relation.foreignKey? = none := by
      unfold Catalog.relationTarget? at hCompared
      unfold Relation.foreignKey?
      split at hCompared
      · cases hCompared
      · rename_i hKind
        rw [hKind]
      · rename_i hKind
        rw [hKind]
    rw [← hName]
    exact .relation _ hHas hKind

/- What names something of the model is a key of it. -/
theorem isKey_of_knows
    (hKnows : context.Knows model key) :
    context.IsKey Model.Has model key := by
  rcases hKnows with hRelation | hCustom | hTarget
  · rcases Option.isSome_iff_exists.mp hRelation with
      ⟨relation, hRelation⟩
    rcases Model.relation?_eq_some hRelation with ⟨_, hName⟩
    have hHas := Model.has_of_relation?_eq_some hRelation
    rw [← hName]
    cases hKind : relation.foreignKey? with
    | some foreign => exact .foreignKey hHas (by simp [hKind])
    | none => exact .relation .exact hHas hKind
  · exact .custom hCustom
  · exact isKey_of_filterTarget? hTarget

end Context

end Relmap

------------------------------------------------------------
-- Shape Of Keys
------------------------------------------------------------

namespace Relmap

namespace Context

variable {context : Context}
variable {model : Model}
variable {key : String}

/-
  A key names something of the model, or its first hop is
  the step that resolution takes.
-/
theorem IsKey.knows_or_step
    (hLinked : context.catalog.IsLinked)
    (hNames : context.catalog.HasPlainNames)
    (hFollow : context.catalog.IsNavigable)
    (hModel : model ∈ context.catalog.models)
    (hKey : context.IsKey Model.Has model key) :
    context.Knows model key ∨
      ∃ relation rest target,
        model.step? key = some (relation, rest) ∧
          context.catalog.model? relation.target =
            some target ∧
          context.IsKey Model.Has target rest := by
  cases hKey with
  | field lookup hField =>
      left; right; right
      exact filterTarget?_of_field hNames hModel hField lookup
  | @relation _ relation lookup hHas hKind =>
      left; right; right
      have hMember := (Model.relation?_eq_some hHas).1
      exact filterTarget?_of_relation hLinked hNames hModel
        hHas (hFollow model hModel relation hMember) hKind
        lookup
  | @foreignKey _ relation hHas hKind =>
      left; left
      have hFound : model.relation? relation.name =
        some relation := hHas
      rw [hFound]
      rfl
  | custom hCustom =>
      left; right; left
      exact hCustom
  | @hop _ target relation rest hHas hTarget hRest =>
      right
      have hMember := (Model.relation?_eq_some hHas).1
      rcases hNames.relation model hModel relation hMember with
        ⟨hSegment, hEnd⟩
      exact ⟨relation, rest, target,
        Model.step?_append hHas hSegment hEnd rest,
        hTarget, hRest⟩

/- A step in front of a key of the target makes a key. -/
theorem IsKey.of_step
    {relation : Relation}
    {rest : String}
    {target : Model}
    (hStep : model.step? key = some (relation, rest))
    (hTarget :
      context.catalog.model? relation.target = some target)
    (hKey : context.IsKey Model.Has target rest) :
    context.IsKey Model.Has model key := by
  rcases Model.step?_eq_some hStep with ⟨hText, hHas, _⟩
  rw [hText]
  exact .hop hHas hTarget hKey

end Context

end Relmap
