import Relmap.Proofs.Query.Endings
import Relmap.Proofs.Query.Registration
import Relmap.Proofs.Query.Rows

/-
  A relation compares what the key of its target is compared
  with.

  A backward or many-to-many relation is registered with a
  comparison of its own, which takes the shortest way to the
  key of the target. The same comparison may be written as a
  hop along the relation to that key. Both filters agree: a
  backward relation makes the same modifier of them, and a
  link table, whose rows refer to one target each, makes the
  same rows as the link table with the target.

  Main declarations:
    * `Context.IsShortcut`
    * `Model.HidesHop`
    * `Modifier.IsShortOf`
    * `Context.IsShortcut.resolveKey_hop`
    * `Context.IsShortcut.resolveKey_of_registers`
    * `FilterTree.resolve_ofRelation`
-/

------------------------------------------------------------
-- Shortcuts
------------------------------------------------------------

namespace Relmap

/-
  A relation of a model and the key of its target may be
  compared by a lookup: the name of the key is no suffix,
  and no custom filter has one of the keys that are used.
-/
structure Context.IsShortcut
    (context : Context)
    (lookup : Lookup)
    (model target : Model)
    (relation : Relation)
    (primary : Field) : Prop where
  hModel : model ∈ context.catalog.models
  hRelation : relation ∈ model.relations
  hTarget : context.catalog.model? relation.target = some target
  hPrimary : target.primaryKey? = some primary
  notSuffix : Lookup.ofSuffix? primary.name = none
  notCustom :
    ∀ key ∈ [lookup.key relation.name,
        lookup.key (relation.name ++ "__" ++ primary.name),
        lookup.key primary.name],
      context.custom.contains key = false

/-
  A field that ends in half a separator is compared by what
  looks like a hop to a key, if the key has the other half
  and a suffix for its name.
-/
def Model.HidesHop
    (model : Model)
    (relation : Relation)
    (primary : Field) : Prop :=
  relation.name ++ "_" ∈ model.fields.map Field.name ∧
    ∃ lookup : Lookup,
      lookup ≠ .exact ∧ primary.name = "_" ++ lookup.suffix

namespace FilterTree

/- The filter that compares a relation. -/
def ofRelation
    (lookup : Lookup)
    (relation : Relation)
    (value : FilterValue) : FilterTree :=
  constraint (lookup.key relation.name) value

/- The filter that compares the key behind the relation. -/
def ofTargetKey
    (lookup : Lookup)
    (relation : Relation)
    (primary : Field)
    (value : FilterValue) : FilterTree :=
  constraint
    (lookup.key (relation.name ++ "__" ++ primary.name)) value

end FilterTree

/- A modifier makes one comparison, and that of rows. -/
structure Modifier.Compares
    (modifier : Modifier)
    (lookup : Lookup)
    (value : Value)
    (joins : List Join)
    (term : Term) : Prop where
  joins : modifier.joins = joins
  having : modifier.having = .empty
  predicate :
    ∃ criterion,
      lookup.comparison value term = .ok criterion ∧
        modifier.predicate = .expr criterion

/-
  One modifier makes the same rows as another one but for a
  target that is left out, and has the same truth value on
  each, provided that every link refers to one target.
-/
def Modifier.IsShortOf
    (near far : Modifier)
    (link : ManyToMany)
    (target : Model)
    (primary : Field) : Prop :=
  ∀ (α : Type) (engine : Engine α) (database : Database α),
    engine.Refers database link.through link.forwardKey
        target.table primary.column →
      ∀ start : Row α,
        List.Forall₂
          (fun row other =>
            (∀ table, table ≠ target.table →
              row table = other table) ∧
            row link.through link.forwardKey =
              other target.table primary.column ∧
            near.predicate.truth? (engine.test row) =
              far.predicate.truth? (engine.test other))
          (near.rows engine database start)
          (far.rows engine database start)

end Relmap

------------------------------------------------------------
-- Keys Behind A Hop
------------------------------------------------------------

namespace Relmap

namespace Context

variable {context : Context}
variable {lookup : Lookup}
variable {model target : Model}
variable {relation : Relation}
variable {primary : Field}

/- A hop to the key of the target is not registered. -/
theorem IsShortcut.filterTarget?_hop
    (hShortcut :
      context.IsShortcut lookup model target relation primary)
    (hHides :
      lookup = .exact → ¬ model.HidesHop relation primary)
    (hNames : context.catalog.HasPlainNames) :
    context.catalog.filterTarget? model
        (relation.name ++ "__" ++ lookup.key primary.name) =
      none := by
  rw [← Option.not_isSome_iff_eq_none]
  intro hSome
  rcases hNames.exists_suffix_of_hop hShortcut.hModel
      hShortcut.hRelation hSome with
    ⟨other, hOther, hRest⟩
  rcases Lookup.isSegment_suffix hOther with
    ⟨hSuffix, hHalfSuffix⟩
  by_cases hExact : lookup = .exact
  · rw [hExact, Lookup.key_exact] at hRest
    rcases hRest with hRest | ⟨hField, hRest⟩
    · have hLookup := Lookup.ofSuffix?_suffix hOther
      rw [← hRest, hShortcut.notSuffix] at hLookup
      cases hLookup
    · exact hHides hExact ⟨hField, other, hOther, hRest⟩
  -- A lookup on the key holds a separator, a suffix none.
  · have hKey :=
      Lookup.not_isSegment_key hExact primary.name
    rcases hRest with hRest | ⟨_, hRest⟩
    · rw [hRest] at hKey
      exact hKey hSuffix
    · rw [hRest] at hKey
      exact hKey hHalfSuffix

/- At the target the key is compared without a join. -/
theorem IsShortcut.resolveKey_primary
    (hShortcut :
      context.IsShortcut lookup model target relation primary)
    (hNames : context.catalog.HasPlainNames)
    (hDistinct : context.catalog.HasDistinctMembers)
    (value : FilterValue) :
    context.resolveKey target (lookup.key primary.name)
        value =
      lookup.modifier value.identity []
        (.qualified target.table primary.column) := by
  have hMember :=
    (Catalog.model?_eq_some hShortcut.hTarget).1
  have hPrimary : primary ∈ target.fields :=
    List.mem_of_find?_eq_some hShortcut.hPrimary
  have hNoRelation :=
    hDistinct.relation?_field hMember hPrimary
  rw [resolveKey, stepLimit]
  refine (registers_field hNames hDistinct hMember
    hPrimary).resolveWithin hNames hMember ?_ (fun _ => rfl)
    (hShortcut.notCustom _ (by simp)) _ _
  intro other hOther
  rw [hNoRelation] at hOther
  cases hOther

/- So it is resolved by hopping to the target. -/
theorem IsShortcut.resolveKey_hop
    (hShortcut :
      context.IsShortcut lookup model target relation primary)
    (hHides :
      lookup = .exact → ¬ model.HidesHop relation primary)
    (hLinked : context.catalog.IsLinked)
    (hNames : context.catalog.HasPlainNames)
    (hDistinct : context.catalog.HasDistinctMembers)
    (value : FilterValue) :
    context.resolveKey model
        (lookup.key (relation.name ++ "__" ++ primary.name))
        value =
      (do
        let joins ←
          context.catalog.relationJoins model relation
        lookup.modifier value.identity joins
          (.qualified target.table primary.column)) := by
  have hModel := hShortcut.hModel
  have hRelation := hShortcut.hRelation
  rcases hNames.relation model hModel relation hRelation with
    ⟨hSegment, hEnd⟩
  have hCustom :=
    hShortcut.notCustom
      (lookup.key (relation.name ++ "__" ++ primary.name))
      (by simp)
  rw [Lookup.key_append] at hCustom ⊢
  have hKnows :
      ¬ context.Knows model
        (relation.name ++ "__" ++
          lookup.key primary.name) := by
    have hNone :=
      hNames.relation?_eq_none hModel
        (Text.not_isSegment_append relation.name
          (lookup.key primary.name))
    simp [Knows, hNone, hCustom,
      hShortcut.filterTarget?_hop hHides hNames]
  have hStep :=
    Model.step?_append
      (hDistinct.relation?_of_mem hModel hRelation) hSegment
      hEnd (lookup.key primary.name)
  have hPlain := hLinked.hasPlainSources hNames
  rw [resolveKey_of_step? hPlain hKnows hStep
      hShortcut.hTarget,
    hShortcut.resolveKey_primary hNames hDistinct]
  cases context.catalog.relationJoins model relation with
  | error fault => rfl
  | ok joins =>
      exact lookup.modifier_nil_and value.identity joins
        (.qualified target.table primary.column)

end Context

end Relmap

------------------------------------------------------------
-- Keys Of Relations
------------------------------------------------------------

namespace Relmap

namespace Context

variable {context : Context}
variable {lookup : Lookup}
variable {model target : Model}
variable {relation : Relation}
variable {primary : Field}

/- A relation that is registered needs one join. -/
theorem IsShortcut.resolveKey_of_registers
    (hShortcut :
      context.IsShortcut lookup model target relation primary)
    (hNames : context.catalog.HasPlainNames)
    (hDistinct : context.catalog.HasDistinctMembers)
    {column own : String}
    {join : FilterJoin}
    (hTarget :
      ∀ lookup,
        context.catalog.relationTarget? relation relation.name
            lookup =
          some ⟨relation.name, column, lookup, some join⟩)
    (hSource : relation.sourceField? = none)
    (hOwn : model.keyColumn = .ok own)
    (value : FilterValue) :
    context.resolveKey model (lookup.key relation.name)
        value =
      lookup.modifier value.identity
        [.onColumns join.table join.backwardKey
          model.table own]
        (.qualified join.table column) := by
  have hModel := hShortcut.hModel
  have hRegisters :=
    registers_relation hNames hDistinct hModel
      hShortcut.hRelation hTarget
  have hFound :=
    hDistinct.relation?_of_mem hModel hShortcut.hRelation
  have hCustom :=
    hShortcut.notCustom _ (List.mem_cons_self ..)
  rw [resolveKey, stepLimit]
  refine hRegisters.resolveWithin hNames hModel ?_ ?_ hCustom
    _ _
  · intro other hOther
    rw [hFound] at hOther
    cases hOther
    exact hSource
  · intro _
    simp [targetJoins, hOwn, bind, Except.bind, pure,
      Except.pure]

/- A relation that is not registered cannot be compared. -/
theorem IsShortcut.resolveKey_of_lacking
    (hShortcut :
      context.IsShortcut lookup model target relation primary)
    (hNames : context.catalog.HasPlainNames)
    (hDistinct : context.catalog.HasDistinctMembers)
    (hTarget :
      ∀ lookup,
        context.catalog.relationTarget? relation relation.name
          lookup = none)
    (hSource : relation.sourceField? = none)
    {fault : Error}
    (hJoins :
      context.catalog.relationJoins model relation =
        .error fault)
    (value : FilterValue) :
    ∃ fault,
      context.resolveKey model (lookup.key relation.name)
        value = .error fault := by
  have hModel := hShortcut.hModel
  have hFound :=
    hDistinct.relation?_of_mem hModel hShortcut.hRelation
  rcases hNames.relation model hModel relation
      hShortcut.hRelation with
    ⟨hSegment, hEnd⟩
  have hNone (lookup : Lookup) :
      context.catalog.filterTarget? model
        (lookup.key relation.name) = none := by
    rw [filterTarget?_relation hNames hDistinct hModel
      hShortcut.hRelation]
    exact hTarget lookup
  have hCustom :=
    hShortcut.notCustom _ (List.mem_cons_self ..)
  rw [resolveKey, stepLimit]
  by_cases hExact : lookup = .exact
  · -- Alone it stays where it is, and is no filter there.
    subst hExact
    have hSelf := hNone .exact
    have hNull := hNone .isNull
    rw [Lookup.key_exact] at hSelf hCustom ⊢
    have hGet :=
      CustomFilters.get?_eq_none_of_contains hCustom
    have hBacking :
        context.backingKey model relation.name =
          .ok relation.name := by
      rw [backingKey, hFound]
      simp [hSource]
    have hHop : context.hop? model relation.name = none := by
      rw [hop?, hSelf, hSegment.cutFirst?_eq_none]
      rfl
    refine ⟨context.unknownKey model relation.name, ?_⟩
    unfold resolveWithin resolveDirect directTarget
    simp only [hBacking, bind, Except.bind, hGet, hHop, hNull,
      hSelf]
  · -- A lookup on it is taken for a hop to nowhere.
    have hKey := Lookup.not_isSegment_key hExact relation.name
    have hKnows :
        ¬ context.Knows model (lookup.key relation.name) := by
      simp [Knows, hNames.relation?_eq_none hModel hKey,
        hCustom, hNone lookup]
    have hStep :=
      Model.step?_append hFound hSegment hEnd lookup.suffix
    rw [← Lookup.key_of_ne hExact] at hStep
    refine ⟨fault, ?_⟩
    rw [resolveWithin_of_step? hKnows hStep,
      Catalog.require_eq_ok_iff.mpr hShortcut.hTarget, hJoins]
    rfl

/-
  A backward relation is compared by the join that a hop
  along it takes, or cannot be followed either way.
-/
theorem IsShortcut.toOption_resolveKey_of_backward
    (hShortcut :
      context.IsShortcut lookup model target relation primary)
    (hHides :
      lookup = .exact → ¬ model.HidesHop relation primary)
    (hLinked : context.catalog.IsLinked)
    (hNames : context.catalog.HasPlainNames)
    (hDistinct : context.catalog.HasDistinctMembers)
    {key : BackwardKey}
    (hKind : relation.kind = .backward key)
    (value : FilterValue) :
    (context.resolveKey model (lookup.key relation.name)
        value).toOption =
      (context.resolveKey model
        (lookup.key (relation.name ++ "__" ++ primary.name))
        value).toOption := by
  have hHop :=
    hShortcut.resolveKey_hop hHides hLinked hNames hDistinct
      value
  have hSource : relation.sourceField? = none := by
    simp [Relation.sourceField?, Relation.foreignKey?, hKind]
  rcases Model.exists_keyColumn
      (hLinked.keyed model hShortcut.hModel) with
    ⟨own, hOwn⟩
  cases hField : target.field? key.relationField with
  | some backing =>
      have hTarget (lookup : Lookup) :=
        Catalog.relationTarget?_of_backward hKind
          hShortcut.hTarget hField hShortcut.hPrimary
          relation.name lookup
      have hColumn :
          target.columnOf key.relationField =
            .ok backing.column := by
        rw [Model.columnOf, hField]
      rw [hHop,
        hShortcut.resolveKey_of_registers hNames hDistinct
          hTarget hSource hOwn,
        Catalog.relationJoins_of_backward hShortcut.hTarget
          hKind hOwn hColumn]
      rfl
  | none =>
      have hTarget (lookup : Lookup) :
          context.catalog.relationTarget? relation
            relation.name lookup = none := by
        simp [Catalog.relationTarget?, hKind,
          hShortcut.hTarget, hField]
      have hJoins :
          context.catalog.relationJoins model relation =
            .error (.fieldNotFound key.relationField
              target.name) :=
        Catalog.relationJoins_of_lacking hShortcut.hTarget
          hKind hField
      rcases hShortcut.resolveKey_of_lacking hNames hDistinct
          hTarget hSource hJoins value with
        ⟨fault, hFault⟩
      rw [hFault, hHop, hJoins]
      rfl

end Context

end Relmap

------------------------------------------------------------
-- Links
------------------------------------------------------------

namespace Relmap

/- Comparisons of two terms fail together, or both match. -/
theorem Lookup.modifier_agree
    (lookup : Lookup)
    (value : Value)
    (joins more : List Join)
    (left right : Term) :
    Except.Agree
      (fun near far =>
        near.Compares lookup value joins left ∧
          far.Compares lookup value more right ∧
          ∀ (α : Type) (engine : Engine α)
            (row other : Row α),
            left.read engine row = right.read engine other →
              near.predicate.truth? (engine.test row) =
                far.predicate.truth? (engine.test other))
      (lookup.modifier value joins left)
      (lookup.modifier value more right) := by
  have hAgree :
      Except.Agree (Criterion.SameOf left right)
        (lookup.comparison value left)
        (lookup.comparison value right) :=
    criterion_agree left right (lookup.rewrite value).1
      (lookup.rewrite value).2
  refine hAgree.and_eq.bind ?_
  rintro first second ⟨hFirst, hSecond, hSame⟩
  refine .ok ⟨⟨rfl, rfl, first, hFirst, rfl⟩,
    ⟨rfl, rfl, second, hSecond, rfl⟩, ?_⟩
  intro α engine row other hRead
  exact congrArg some (hSame α engine row other hRead)

namespace Context

variable {context : Context}
variable {lookup : Lookup}
variable {model target : Model}
variable {relation : Relation}
variable {primary : Field}

/- A link is compared without the table that it leads to. -/
theorem IsShortcut.agree_of_manyToMany
    (hShortcut :
      context.IsShortcut lookup model target relation primary)
    (hHides :
      lookup = .exact → ¬ model.HidesHop relation primary)
    (hLinked : context.catalog.IsLinked)
    (hNames : context.catalog.HasPlainNames)
    (hDistinct : context.catalog.HasDistinctMembers)
    {link : ManyToMany}
    (hKind : relation.kind = .manyToMany link)
    (hTables :
      [model.table, target.table, link.through].Nodup)
    (value : FilterValue) :
    ∃ first second,
      context.catalog.relationJoins model relation =
          .ok [first, second] ∧
        first.table = link.through ∧
        second.table = target.table ∧
        Except.Agree
          (fun near far =>
            near.Compares lookup value.identity [first]
                (.qualified link.through link.forwardKey) ∧
              far.Compares lookup value.identity
                [first, second]
                (.qualified target.table primary.column) ∧
              near.IsShortOf far link target primary)
          (context.resolveKey model
            (lookup.key relation.name) value)
          (context.resolveKey model
            (lookup.key
              (relation.name ++ "__" ++ primary.name))
            value) := by
  have hSource : relation.sourceField? = none := by
    simp [Relation.sourceField?, Relation.foreignKey?, hKind]
  have hTarget (lookup : Lookup) :
      context.catalog.relationTarget? relation
          relation.name lookup =
        some ⟨relation.name, link.forwardKey, lookup,
          some ⟨link.through, link.backwardKey⟩⟩ :=
    Catalog.relationTarget?_of_manyToMany hKind relation.name
      lookup
  rcases Model.exists_keyColumn
      (hLinked.keyed model hShortcut.hModel) with
    ⟨own, hOwn⟩
  have hFar : target.keyColumn = .ok primary.column := by
    rw [Model.keyColumn, Model.primaryKey, hShortcut.hPrimary]
    rfl
  have hJoins :=
    Catalog.relationJoins_of_manyToMany hShortcut.hTarget
      hKind hOwn hFar
  have hHop :=
    hShortcut.resolveKey_hop hHides hLinked hNames hDistinct
      value
  rw [hJoins] at hHop
  refine ⟨_, _, hJoins, rfl, rfl, ?_⟩
  rw [hHop,
    hShortcut.resolveKey_of_registers hNames hDistinct hTarget
      hSource hOwn]
  have hKnown : model.table ≠ link.through := by
    rintro hSame
    simp [hSame] at hTables
  have hBehind : link.through ≠ target.table := by
    rintro hSame
    simp [hSame] at hTables
  refine (Lookup.modifier_agree lookup value.identity _ _ _
    _).imp ?_
  rintro near far ⟨hNear, hFar, hTruth⟩
  refine ⟨hNear, hFar, ?_⟩
  intro α engine database hRefers start
  have hRows :=
    Modifier.rows_of_refers hNear.joins hFar.joins hKnown
      hBehind hRefers start
  refine hRows.imp ?_
  rintro row other ⟨hOthers, hSame⟩
  exact ⟨hOthers, hSame, hTruth α engine row other hSame⟩

end Context

end Relmap

------------------------------------------------------------
-- Filters
------------------------------------------------------------

namespace Relmap

namespace FilterTree

/-
  A relation may be compared in place of the key that it
  leads to. For a backward relation both filters make one
  modifier, if they make any. For a link they fail alike, or
  the shorter one leaves the target out, and then there are
  the same rows, of which it says the same.
-/
theorem resolve_ofRelation
    {models : List Model}
    {context : Context}
    (hLink : Catalog.link models = .ok context.catalog)
    (hNames : context.catalog.HasPlainNames)
    (hDistinct : context.catalog.HasDistinctMembers)
    {lookup : Lookup}
    {model target : Model}
    {relation : Relation}
    {primary : Field}
    (hShortcut :
      context.IsShortcut lookup model target relation primary)
    (hHides :
      lookup = .exact → ¬ model.HidesHop relation primary)
    (value : FilterValue) :
    (∀ key, relation.kind = .backward key →
      ((ofRelation lookup relation value).resolve context
          model).toOption =
        ((ofTargetKey lookup relation primary value).resolve
          context model).toOption) ∧
    ∀ link, relation.kind = .manyToMany link →
      [model.table, target.table, link.through].Nodup →
        ∃ first second,
          context.catalog.relationJoins model relation =
              .ok [first, second] ∧
            first.table = link.through ∧
            second.table = target.table ∧
            Except.Agree
              (fun near far =>
                near.Compares lookup value.identity [first]
                    (.qualified link.through
                      link.forwardKey) ∧
                  far.Compares lookup value.identity
                    [first, second]
                    (.qualified target.table
                      primary.column) ∧
                  near.IsShortOf far link target primary)
              ((ofRelation lookup relation value).resolve
                context model)
              ((ofTargetKey lookup relation primary
                value).resolve context model) := by
  have hLinked := Catalog.isLinked_of_link hLink
  rw [ofRelation, ofTargetKey, resolve_constraint,
    resolve_constraint]
  constructor
  · intro key hKind
    exact hShortcut.toOption_resolveKey_of_backward hHides
      hLinked hNames hDistinct hKind value
  · intro link hKind hTables
    exact hShortcut.agree_of_manyToMany hHides hLinked hNames
      hDistinct hKind hTables value

/- The parts of a shortcut, by the names of two of them. -/
private def shortcut?
    (catalog : Catalog)
    (name : String)
    (relation : String) :
    Option (Model × Relation × Model × Field) := do
  let model ← catalog.model? name
  let found ← model.relation? relation
  let target ← catalog.model? found.target
  let primary ← target.primaryKey?
  return (model, found, target, primary)

private theorem isShortcut_of_shortcut?
    {catalog : Catalog}
    {name relationName : String}
    {model target : Model}
    {relation : Relation}
    {primary : Field}
    (hParts :
      shortcut? catalog name relationName =
        some (model, relation, target, primary))
    (hPrimary : Lookup.ofSuffix? primary.name = none)
    (lookup : Lookup) :
    (Context.ofCatalog catalog).IsShortcut lookup model target
      relation primary := by
  simp only [shortcut?, Option.bind_eq_bind,
    Option.bind_eq_some_iff] at hParts
  rcases hParts with
    ⟨_, hModel, _, hRelation, _, hTarget, _, hKey, hSame⟩
  cases hSame
  exact
    { hModel := (Catalog.model?_eq_some hModel).1
      hRelation := (Model.relation?_eq_some hRelation).1
      hTarget := hTarget
      hPrimary := hKey
      notSuffix := hPrimary
      notCustom := fun _ _ => rfl }

/- A shortcut of declarations that passes a test. -/
private def hasShortcut
    (models : List Model)
    (name : String)
    (relation : String)
    (test :
      Context → Model → Model → Relation → Field → Bool) :
    Bool :=
  (Catalog.link models).toOption.any fun catalog =>
    catalog.HasPlainNames ∧ catalog.HasDistinctMembers ∧
      (shortcut? catalog name relation).any
          (fun (model, found, target, primary) =>
            Lookup.ofSuffix? primary.name = none ∧
              test (.ofCatalog catalog) model target found
                primary) =
        true

private theorem exists_of_hasShortcut
    {models : List Model}
    {name relationName : String}
    {test :
      Context → Model → Model → Relation → Field → Bool}
    (hTest :
      hasShortcut models name relationName test = true) :
    ∃ context model target relation primary,
      Catalog.link models = .ok context.catalog ∧
        context.catalog.HasPlainNames ∧
        context.catalog.HasDistinctMembers ∧
        (∀ lookup, context.IsShortcut lookup model target
          relation primary) ∧
        test context model target relation primary = true := by
  rcases Except.exists_of_any hTest with
    ⟨catalog, hLink, hTest⟩
  rcases of_decide_eq_true hTest with
    ⟨hNames, hDistinct, hTest⟩
  rcases (Option.any_eq_true _ _).mp hTest with
    ⟨⟨model, found, target, primary⟩, hParts, hTest⟩
  rcases of_decide_eq_true hTest with ⟨hPrimary, hTest⟩
  exact ⟨.ofCatalog catalog, model, target, found, primary,
    hLink, hNames, hDistinct,
    isShortcut_of_shortcut? hParts hPrimary, hTest⟩

/- Books with an author each, and tags. -/
private def annotated : List Model :=
  [{ name := "Author"
     fields := [.keyOfType "id" (.named FieldType.intName)] },
    { name := "Tag"
      fields := [
        .keyOfType "word" (.named FieldType.textName)] },
    { name := "Book"
      fields := [
        .keyOfType "code" (.named FieldType.textName)]
      relations := [
        (Relation.toOne "author" "Author").withRelatedName
          "books",
        .toMany "tags" "Tag"] }]

/- The link of books to tags, with all names filled in. -/
private def bookTag : ManyToMany :=
  { through := "book_tag"
    forwardKey := "tag_id"
    backwardKey := "book_id" }

/- Patterns, whose wildcards may be escaped. -/
private def matchesLike : List Char → List Char → Bool
  | [], text => text.isEmpty
  | '%' :: pattern, text =>
      text.tails.any (matchesLike pattern)
  | '_' :: pattern, _ :: text => matchesLike pattern text
  | '\\' :: c :: pattern, d :: text =>
      c = d && matchesLike pattern text
  | c :: pattern, d :: text =>
      c = d && matchesLike pattern text
  | _ :: _, [] => false

/- A database of texts. -/
private def textEngine : Engine String where
  literal
    | .string text => some text
    | _ => none
  compare
    | .eq, left, right => left = right
    | .ne, left, right => left ≠ right
    | .lt, left, right => left < right
    | .le, left, right => left ≤ right
    | .gt, left, right => right < left
    | .ge, left, right => right ≤ left
  like text pattern := matchesLike pattern.toList text.toList
  upper := String.toUpper
  eq_of_compare _ _ hEqual := of_decide_eq_true hEqual

/- Some tags, two of them of one book. -/
private def bookTags : Database String
  | "book_tag" =>
      ["Algebra", "Logic"].map fun tag column =>
        if column = "tag_id" then some tag else some "b1"
  | "tag" =>
      ["Algebra", "Logic", "Sets"].map fun tag _ => some tag
  | _ => []

/- The row of the book alone. -/
private def bookRow : Row String := fun _ _ => some "b1"

/- What a filter says of the tags of the book. -/
private def truths (filter : Modifier) : List (Option Truth) :=
  (filter.rows textEngine bookTags bookRow).map fun row =>
    filter.predicate.truth? (textEngine.test row)

/- The books of an author, and the tags of a book. -/
theorem resolve_ofRelation_annotated :
    (∃ context author book books id part,
      Catalog.link annotated = .ok context.catalog ∧
        context.IsShortcut .exact author book books id ∧
        (ofRelation .exact books (.literal (.int32 5))).resolve
            context author = .ok part ∧
        (ofTargetKey .exact books id
          (.literal (.int32 5))).resolve context author =
            .ok part) ∧
      textEngine.Refers bookTags "book_tag" "tag_id" "tag"
          "word" ∧
        ∃ context book tag tags word near far,
          Catalog.link annotated = .ok context.catalog ∧
            context.IsShortcut .istartsWith book tag tags
              word ∧
            tags.kind = .manyToMany bookTag ∧
            (ofRelation .istartsWith tags
              (.literal (.string "a"))).resolve context book =
                .ok near ∧
            (ofTargetKey .istartsWith tags word
              (.literal (.string "a"))).resolve context book =
                .ok far ∧
            truths near = [some .yes, some .no] ∧
            truths far = [some .yes, some .no] := by
  have hRefers :
      textEngine.Refers bookTags "book_tag" "tag_id" "tag"
        "word" := by
    have hOne :
        ∀ tuple ∈ bookTags "book_tag",
          ((bookTags "tag").filter fun other =>
            textEngine.equates (other "word")
              (tuple "tag_id")).length = 1 := by
      decide +kernel
    intro tuple hTuple
    exact List.length_eq_one_iff.mp (hOne tuple hTuple)
  refine ⟨?_, hRefers, ?_⟩
  · have hFound :
        hasShortcut annotated "Author" "books"
            (fun context author _ books id =>
              books = .backward "books" "Book" "author_id" ∧
                books.name ++ "_" ∉
                  author.fields.map Field.name ∧
                ((ofRelation .exact books
                  (.literal (.int32 5))).resolve context
                    author).toOption.isSome = true) = true := by
      decide +kernel
    rcases exists_of_hasShortcut hFound with
      ⟨context, author, book, books, id, hLink, hNames,
       hDistinct, hShortcut, hTest⟩
    rcases of_decide_eq_true hTest with
      ⟨hBooks, hField, hSome⟩
    rcases Option.isSome_iff_exists.mp hSome with
      ⟨part, hPart⟩
    have hSame :=
      (resolve_ofRelation hLink hNames hDistinct
        (hShortcut .exact) (fun _ hHides => hField hHides.1)
        (.literal (.int32 5))).1 ⟨"author_id", false⟩
          (by rw [hBooks]; rfl)
    refine ⟨context, author, book, books, id, part, hLink,
      hShortcut .exact, ?_, ?_⟩
    · exact Except.toOption_eq_some_iff.mp hPart
    · rw [hSame] at hPart
      exact Except.toOption_eq_some_iff.mp hPart
  · have hFound :
        hasShortcut annotated "Book" "tags"
            (fun context book tag tags word =>
              tags.kind = .manyToMany bookTag ∧
                [book.table, tag.table,
                  bookTag.through].Nodup ∧
                tags.name ++ "_" ∉
                  book.fields.map Field.name ∧
                tag.table = "tag" ∧
                word.column = "word" ∧
                ((ofRelation .istartsWith tags
                  (.literal (.string "a"))).resolve context
                    book).toOption.any (fun near =>
                      truths near = [some .yes, some .no]) =
                  true) = true := by
      decide +kernel
    rcases exists_of_hasShortcut hFound with
      ⟨context, book, tag, tags, word, hLink, hNames,
       hDistinct, hShortcut, hTest⟩
    rcases of_decide_eq_true hTest with
      ⟨hKind, hTables, hField, hTag, hWord, hSome⟩
    rcases Except.exists_of_any hSome with
      ⟨near, hNear, hTruths⟩
    rcases (resolve_ofRelation hLink hNames hDistinct
        (hShortcut .istartsWith)
        (fun _ hHides => hField hHides.1)
        (.literal (.string "a"))).2 bookTag hKind hTables with
      ⟨_, _, _, _, _, hAgree⟩
    rw [hNear] at hAgree
    rcases hAgree.exists_of_ok with ⟨far, hFar, _, _, hShort⟩
    have hRows :=
      hShort String textEngine bookTags
        (by rw [hTag, hWord]; exact hRefers) bookRow
    have hSame : truths far = truths near :=
      hRows.map_eq fun _ _ hRow => hRow.2.2.symm
    have hNearTruths := of_decide_eq_true hTruths
    exact ⟨context, book, tag, tags, word, near, far, hLink,
      hShortcut .istartsWith, hKind, hNear, hFar, hNearTruths,
      hSame.trans hNearTruths⟩

/- Shelves with a field and a relation to items. -/
private def labelled : List Model :=
  [{ name := "Shelf"
     fields := [
      .keyOfType "id" (.named FieldType.intName),
      .ofType "item_" (.named FieldType.intName)] },
    { name := "Item"
      fields := [.keyOfType "_in" (.named FieldType.intName)]
      relations := [
        (Relation.toOne "shelf" "Shelf").withRelatedName
          "item"] }]

/-
  If a field hides the hop then the longer filter compares
  the field, by a lookup that may refuse the value.
-/
theorem exists_hidden_hop :
    ∃ models context shelf item items primary key,
      Catalog.link models = .ok context.catalog ∧
        context.catalog.HasPlainNames ∧
        context.catalog.HasDistinctMembers ∧
        context.IsShortcut .exact shelf item items primary ∧
        items.kind = .backward key ∧
        ((ofRelation .exact items
            (.literal (.int32 5))).resolve context
              shelf).toOption ≠
          ((ofTargetKey .exact items primary
            (.literal (.int32 5))).resolve context
              shelf).toOption := by
  have hFound :
      hasShortcut labelled "Shelf" "item"
          (fun context shelf _ items primary =>
            items = .backward "item" "Item" "shelf_id" ∧
              ((ofRelation .exact items
                  (.literal (.int32 5))).resolve context
                    shelf).toOption.isSome ≠
                ((ofTargetKey .exact items primary
                  (.literal (.int32 5))).resolve context
                    shelf).toOption.isSome) = true := by
    decide +kernel
  rcases exists_of_hasShortcut hFound with
    ⟨context, shelf, item, items, primary, hLink, hNames,
     hDistinct, hShortcut, hTest⟩
  rcases of_decide_eq_true hTest with ⟨hItems, hDiffer⟩
  refine ⟨labelled, context, shelf, item, items, primary,
    ⟨"shelf_id", false⟩, hLink, hNames, hDistinct,
    hShortcut .exact, by rw [hItems]; rfl, ?_⟩
  intro hSame
  rw [hSame] at hDiffer
  exact hDiffer rfl

end FilterTree

end Relmap
