import Relmap.Proofs.Catalog.Linking
import Relmap.Query.Join

/-
  In a linked catalog every relation can be followed, with
  one exception: a backward relation that was declared with
  a field which its target lacks.

  Main declarations:
    * `Catalog.IsFollowable`
    * `Catalog.relationJoins_of_foreignKey`
    * `Catalog.relationJoins_of_backward`
    * `Catalog.relationJoins_of_manyToMany`
    * `Catalog.IsLinked.relationJoins_eq_ok`
    * `Catalog.IsNavigable`
    * `Catalog.isNavigable_of_link`
-/

------------------------------------------------------------
-- Columns
------------------------------------------------------------

namespace Relmap

namespace Model

variable {model : Model}

/- A model that has a key has a column for it. -/
theorem exists_keyColumn
    (hKey : model.primaryKey?.isSome = true) :
    ∃ column, model.keyColumn = .ok column := by
  rcases Option.isSome_iff_exists.mp hKey with ⟨field, hField⟩
  refine ⟨field.column, ?_⟩
  rw [keyColumn, primaryKey, hField]
  rfl

/- A field that exists has a column. -/
theorem exists_columnOf
    {name : String}
    (hField : (model.field? name).isSome = true) :
    ∃ column, model.columnOf name = .ok column := by
  rcases Option.isSome_iff_exists.mp hField with ⟨field, hFound⟩
  refine ⟨field.column, ?_⟩
  rw [columnOf, hFound]

end Model

end Relmap

------------------------------------------------------------
-- Joins Of Relations
------------------------------------------------------------

namespace Relmap

namespace Catalog

/-
  A backward relation names a field of its target; any other
  relation is followable anyway.
-/
def IsFollowable
    (catalog : Catalog)
    (relation : Relation) : Prop :=
  ∀ key, relation.kind = .backward key →
    ∃ target,
      catalog.model? relation.target = some target ∧
        (target.field? key.relationField).isSome = true

instance
    (catalog : Catalog)
    (relation : Relation) :
    Decidable (catalog.IsFollowable relation) :=
  match hKind : relation.kind with
  | .foreignKey _ =>
      .isTrue fun _ hBackward => by
        rw [hKind] at hBackward
        cases hBackward
  | .manyToMany _ =>
      .isTrue fun _ hBackward => by
        rw [hKind] at hBackward
        cases hBackward
  | .backward key =>
      decidable_of_iff
        (((catalog.model? relation.target).bind
          (Model.field? · key.relationField)).isSome = true)
        (by
          unfold IsFollowable
          rw [hKind, Option.isSome_bind]
          cases catalog.model? relation.target with
          | none => simp
          | some target => simp)

variable {catalog : Catalog}

section

variable {model target : Model}
variable {relation : Relation}
variable {own far : String}

/- A foreign key leads from its column to the far key. -/
theorem relationJoins_of_foreignKey
    (hTarget : catalog.model? relation.target = some target)
    {key : ForeignKey}
    (hKind : relation.kind = .foreignKey key)
    (hOwn : model.columnOf key.sourceField = .ok own)
    (hFar : target.keyColumn = .ok far) :
    catalog.relationJoins model relation =
      .ok [.onColumns target.table far model.table own] := by
  have hRequire := require_eq_ok_iff.mpr hTarget
  simp [relationJoins, hRequire, hKind, hOwn, hFar, bind,
    Except.bind, pure, Except.pure]

/- A backward key leads from the key to a far column. -/
theorem relationJoins_of_backward
    (hTarget : catalog.model? relation.target = some target)
    {key : BackwardKey}
    (hKind : relation.kind = .backward key)
    (hOwn : model.keyColumn = .ok own)
    (hFar : target.columnOf key.relationField = .ok far) :
    catalog.relationJoins model relation =
      .ok [.onColumns target.table far model.table own] := by
  have hRequire := require_eq_ok_iff.mpr hTarget
  simp [relationJoins, hRequire, hKind, hOwn, hFar, bind,
    Except.bind, pure, Except.pure]

/- A link leads from key to key through its table. -/
theorem relationJoins_of_manyToMany
    (hTarget : catalog.model? relation.target = some target)
    {link : ManyToMany}
    (hKind : relation.kind = .manyToMany link)
    (hOwn : model.keyColumn = .ok own)
    (hFar : target.keyColumn = .ok far) :
    catalog.relationJoins model relation =
      .ok [
        .onColumns link.through link.backwardKey
          model.table own,
        .onColumns target.table far
          link.through link.forwardKey] := by
  have hRequire := require_eq_ok_iff.mpr hTarget
  simp [relationJoins, hRequire, hKind, hOwn, hFar, bind,
    Except.bind, pure, Except.pure]

/- A backward key to a field that is missing leads nowhere. -/
theorem relationJoins_of_lacking
    (hTarget : catalog.model? relation.target = some target)
    {key : BackwardKey}
    (hKind : relation.kind = .backward key)
    (hField : target.field? key.relationField = none) :
    catalog.relationJoins model relation =
      .error (.fieldNotFound key.relationField target.name) := by
  have hRequire := require_eq_ok_iff.mpr hTarget
  simp [relationJoins, hRequire, hKind, Model.columnOf,
    hField, bind, Except.bind]

end

/- A relation of a linked catalog leads to a model. -/
theorem IsLinked.exists_target
    (hLinked : catalog.IsLinked)
    {model : Model}
    (hModel : model ∈ catalog.models)
    {relation : Relation}
    (hRelation : relation ∈ model.relations) :
    ∃ target ∈ catalog.models,
      catalog.model? relation.target = some target := by
  rcases Option.isSome_iff_exists.mp
      (hLinked.targets model hModel relation hRelation) with
    ⟨target, hTarget⟩
  exact ⟨target, (model?_eq_some hTarget).1, hTarget⟩

/- A foreign key of a linked catalog starts at a column. -/
theorem IsLinked.exists_columnOf
    (hLinked : catalog.IsLinked)
    {model : Model}
    (hModel : model ∈ catalog.models)
    {relation : Relation}
    (hRelation : relation ∈ model.relations)
    {key : ForeignKey}
    (hKind : relation.kind = .foreignKey key) :
    ∃ column, model.columnOf key.sourceField = .ok column := by
  apply Model.exists_columnOf
  apply hLinked.backed model hModel relation hRelation
  simp [Relation.sourceField?, Relation.foreignKey?, hKind]

/- A followable relation leads to a model by joins. -/
theorem IsLinked.relationJoins_eq_ok
    (hLinked : catalog.IsLinked)
    {model : Model}
    (hModel : model ∈ catalog.models)
    {relation : Relation}
    (hRelation : relation ∈ model.relations)
    (hFollow : catalog.IsFollowable relation) :
    ∃ target joins,
      catalog.model? relation.target = some target ∧
        catalog.relationJoins model relation = .ok joins := by
  rcases hLinked.exists_target hModel hRelation with
    ⟨target, hMember, hTarget⟩
  rcases
      Model.exists_keyColumn (hLinked.keyed model hModel) with
    ⟨ownKey, hOwnKey⟩
  rcases
      Model.exists_keyColumn (hLinked.keyed target hMember) with
    ⟨farKey, hFarKey⟩
  cases hKind : relation.kind with
  | foreignKey key =>
      rcases hLinked.exists_columnOf hModel hRelation hKind with
        ⟨column, hColumn⟩
      exact ⟨target, _, hTarget,
        relationJoins_of_foreignKey hTarget hKind hColumn
          hFarKey⟩
  | backward key =>
      rcases hFollow key hKind with ⟨other, hOther, hField⟩
      rw [hTarget] at hOther
      cases hOther
      rcases Model.exists_columnOf hField with ⟨column, hColumn⟩
      exact ⟨target, _, hTarget,
        relationJoins_of_backward hTarget hKind hOwnKey
          hColumn⟩
  | manyToMany link =>
      exact ⟨target, _, hTarget,
        relationJoins_of_manyToMany hTarget hKind hOwnKey
          hFarKey⟩

/- Any other relation is a backward key without its field. -/
theorem IsLinked.exists_lacking
    (hLinked : catalog.IsLinked)
    {model : Model}
    (hModel : model ∈ catalog.models)
    {relation : Relation}
    (hRelation : relation ∈ model.relations)
    (hFollow : ¬ catalog.IsFollowable relation) :
    ∃ key target,
      relation.kind = .backward key ∧
        catalog.model? relation.target = some target ∧
        target.field? key.relationField = none := by
  rcases hLinked.exists_target hModel hRelation with
    ⟨target, _, hTarget⟩
  unfold IsFollowable at hFollow
  push Not at hFollow
  rcases hFollow with ⟨key, hKind, hLacks⟩
  refine ⟨key, target, hKind, hTarget, ?_⟩
  exact Option.not_isSome_iff_eq_none.mp (hLacks target hTarget)

/- All relations of a catalog are followable. -/
def IsNavigable (catalog : Catalog) : Prop :=
  ∀ model ∈ catalog.models,
    ∀ relation ∈ model.relations,
      catalog.IsFollowable relation

/-
  A linked catalog is navigable if the declared relations are
  followable in it: what linking adds always is.
-/
theorem isNavigable_of_link
    {models : List Model}
    (hLink : link models = .ok catalog)
    (hDeclared :
      ∀ original ∈ models,
        ∀ relation ∈ original.relations,
          catalog.IsFollowable relation) :
    catalog.IsNavigable := by
  rcases isLinking_of_link hLink with ⟨linked, hLinking⟩
  intro model hModel relation hRelation key hKind
  rcases hLinking.backward hModel hRelation hKind with
    ⟨original, hOriginal, _, hBefore⟩ | hFound
  · exact hDeclared original hOriginal relation hBefore
      key hKind
  · exact hFound

end Catalog

end Relmap
