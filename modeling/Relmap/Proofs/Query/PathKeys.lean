import Relmap.Proofs.Query.Endings
import Relmap.Proofs.Query.Registration

/-
  Keys behind a path of relations.

  A key with the names of relations in front of it is
  resolved as the key alone is at the end of the path, with
  the joins of the path before its own. With plain names
  nothing but a custom filter can come before a hop, and a
  registered filter only where one relation is left.

  Main declarations:
    * `Catalog.IsPath`
    * `Context.pathKey`
    * `Context.IsUnclaimed`
    * `Context.IsUnclaimed.resolveKey_eq_ok_iff`
    * `FilterTree.resolve_pathKey`
-/

------------------------------------------------------------
-- Paths
------------------------------------------------------------

namespace Relmap

/-
  Hops lead from a model to another, each a relation with the
  model that it starts at. A relation counts as one of the
  model if `Has` says so.
-/
inductive Catalog.IsPath
    (catalog : Catalog)
    (Has : Model → Relation → Prop) :
    Model → List (Model × Relation) → Model → Prop where
  | here {model : Model} : IsPath catalog Has model [] model
  | hop {model next target : Model} {relation : Relation}
      {hops : List (Model × Relation)}
      (hRelation : Has model relation)
      (hNext : catalog.model? relation.target = some next)
      (hRest : IsPath catalog Has next hops target) :
      IsPath catalog Has model ((model, relation) :: hops)
        target

namespace Context

/- The names of the relations in front of a key. -/
def pathKey
    (hops : List (Model × Relation))
    (key : String) : String :=
  hops.foldr
    (fun hop rest => hop.2.name ++ "__" ++ rest) key

/-
  No part of the path, with what follows it, is the key of a
  custom filter, and at its last model none is registered.
-/
structure IsUnclaimed
    (context : Context)
    (hops : List (Model × Relation))
    (key : String) : Prop where
  custom :
    ∀ part, part <:+ hops → part ≠ [] →
      context.custom.contains (pathKey part key) = false
  registered :
    ∀ last, [last] <:+ hops →
      context.catalog.filterTarget? last.1
        (pathKey [last] key) = none

variable {context : Context}
variable {hop : Model × Relation}
variable {hops : List (Model × Relation)}
variable {key : String}

@[simp] theorem pathKey_nil (key : String) :
    pathKey [] key = key :=
  rfl

@[simp] theorem pathKey_cons
    (hop : Model × Relation)
    (hops : List (Model × Relation))
    (key : String) :
    pathKey (hop :: hops) key =
      hop.2.name ++ "__" ++ pathKey hops key :=
  rfl

/- The rest of a path claims no more than the whole. -/
theorem IsUnclaimed.tail
    (hFree : context.IsUnclaimed (hop :: hops) key) :
    context.IsUnclaimed hops key where
  custom part hPart :=
    hFree.custom part (hPart.trans (List.suffix_cons _ _))
  registered last hLast :=
    hFree.registered last
      (hLast.trans (List.suffix_cons _ _))

end Context

end Relmap

------------------------------------------------------------
-- Hops
------------------------------------------------------------

namespace Relmap

namespace Catalog

variable {catalog : Catalog}

/- Behind a hop no further hop is part of a filter. -/
theorem HasPlainNames.filterTarget?_hop
    (hNames : catalog.HasPlainNames)
    {model : Model}
    (hModel : model ∈ catalog.models)
    {relation : Relation}
    (hRelation : relation ∈ model.relations)
    {rest : String}
    (hRest : ¬ Text.IsSegment rest) :
    catalog.filterTarget? model
      (relation.name ++ "__" ++ rest) = none := by
  rw [← Option.not_isSome_iff_eq_none]
  intro hSome
  rcases hNames.exists_suffix_of_hop hModel hRelation hSome
    with ⟨lookup, hLookup, hSuffix⟩
  rcases Lookup.isSegment_suffix hLookup with
    ⟨hSegment, hHalf⟩
  rcases hSuffix with rfl | ⟨_, rfl⟩
  · exact hRest hSegment
  · exact hRest hHalf

end Catalog

namespace Context

variable {context : Context}
variable {model target : Model}
variable {relation : Relation}
variable {key : String}

/- The first relation of a path in front of a key is a hop. -/
theorem IsUnclaimed.not_knows
    {hops : List (Model × Relation)}
    (hFree :
      context.IsUnclaimed ((model, relation) :: hops) key)
    (hNames : context.catalog.HasPlainNames)
    (hModel : model ∈ context.catalog.models)
    (hRelation : relation ∈ model.relations) :
    ¬ context.Knows model
      (pathKey ((model, relation) :: hops) key) := by
  have hNone :
      model.relation?
        (pathKey ((model, relation) :: hops) key) = none :=
    hNames.relation?_eq_none hModel
      (Text.not_isSegment_append _ _)
  have hCustom := hFree.custom _ List.suffix_rfl (by simp)
  have hFilter :
      context.catalog.filterTarget? model
        (pathKey ((model, relation) :: hops) key) = none := by
    cases hops with
    | nil => exact hFree.registered _ List.suffix_rfl
    | cons next others =>
        exact hNames.filterTarget?_hop hModel hRelation
          (Text.not_isSegment_append _ _)
  simp only [Knows, hNone, hCustom, hFilter]
  simp

/- Such a hop adds the joins of its relation in front. -/
theorem IsUnclaimed.resolveKey_eq_ok_iff
    {hops : List (Model × Relation)}
    (hFree :
      context.IsUnclaimed ((model, relation) :: hops) key)
    (hLinked : context.catalog.IsLinked)
    (hNames : context.catalog.HasPlainNames)
    (hModel : model ∈ context.catalog.models)
    (hHas : model.Has relation)
    (hTarget :
      context.catalog.model? relation.target = some target)
    (value : FilterValue)
    (modifier : Modifier) :
    context.resolveKey model
        (pathKey ((model, relation) :: hops) key) value =
          .ok modifier ↔
      ∃ first nested,
        context.catalog.relationJoins model relation =
            .ok first ∧
          context.resolveKey target (pathKey hops key)
            value = .ok nested ∧
          modifier =
            { nested with joins := first ++ nested.joins } := by
  have hRelation := (Model.relation?_eq_some hHas).1
  rcases hNames.relation model hModel relation hRelation with
    ⟨hSegment, hEnd⟩
  have hPlain := hLinked.hasPlainSources hNames
  have hKnows := hFree.not_knows hNames hModel hRelation
  have hStep :=
    Model.step?_append hHas hSegment hEnd (pathKey hops key)
  rw [resolveKey_of_step? hPlain hKnows hStep hTarget]
  simp only [Except.bind_eq_ok_iff]
  constructor
  · rintro ⟨first, hFirst, nested, hNested, hResult⟩
    cases hResult
    exact ⟨first, nested, hFirst, hNested,
      Modifier.ofJoins_and first nested⟩
  · rintro ⟨first, nested, hFirst, hNested, rfl⟩
    rw [← Modifier.ofJoins_and]
    exact ⟨first, hFirst, nested, hNested, rfl⟩

end Context

end Relmap

------------------------------------------------------------
-- Composition
------------------------------------------------------------

namespace Relmap

variable {context : Context}
variable {origin target : Model}
variable {hops : List (Model × Relation)}
variable {key : String}

/- The hops of a path have joins. -/
def Context.JoinsAlong
    (context : Context)
    (hops : List (Model × Relation))
    (joins : List (List Join)) : Prop :=
  List.Forall₂
    (fun hop found =>
      context.catalog.relationJoins hop.1 hop.2 = .ok found)
    hops joins

/-
  A key is resolved at the end of its path. By induction on
  the path: every hop adds its joins in front.
-/
theorem Catalog.IsPath.resolveKey_eq_ok_iff
    (hPath : context.catalog.IsPath Model.Has origin hops target)
    (hLinked : context.catalog.IsLinked)
    (hNames : context.catalog.HasPlainNames)
    (hOrigin : origin ∈ context.catalog.models)
    (hFree : context.IsUnclaimed hops key)
    (value : FilterValue)
    (modifier : Modifier) :
    context.resolveKey origin (Context.pathKey hops key) value =
        .ok modifier ↔
      ∃ joins nested,
        context.JoinsAlong hops joins ∧
          context.resolveKey target key value = .ok nested ∧
          modifier =
            { nested with
              joins := joins.flatten ++ nested.joins } := by
  induction hPath generalizing modifier with
  | here =>
      constructor
      · intro hResult
        exact ⟨[], modifier, .nil, hResult, rfl⟩
      · rintro ⟨joins, nested, hJoins, hResult, rfl⟩
        cases hJoins
        exact hResult
  | hop hHas hNext _ ih =>
      have hNextModel := (Catalog.model?_eq_some hNext).1
      rw [hFree.resolveKey_eq_ok_iff hLinked hNames hOrigin
        hHas hNext]
      simp only [ih hNextModel hFree.tail]
      constructor
      · rintro ⟨first, _, hFirst,
          ⟨joins, nested, hJoins, hNested, rfl⟩, rfl⟩
        refine ⟨first :: joins, nested, .cons hFirst hJoins,
          hNested, ?_⟩
        rw [List.flatten_cons, List.append_assoc]
      · rintro ⟨_, nested, hAll, hNested, rfl⟩
        cases hAll with
        | @cons _ first _ joins hFirst hJoins =>
            refine ⟨first, _, hFirst,
              ⟨joins, nested, hJoins, hNested, rfl⟩, ?_⟩
            rw [List.flatten_cons, List.append_assoc]

namespace FilterTree

/-
  A key behind a path is resolved if the path has joins and
  the key is resolved at its end. The modifier is that of the
  key with the joins of the path, hop by hop, before its own.
-/
theorem resolve_pathKey
    {models : List Model}
    (hLink : Catalog.link models = .ok context.catalog)
    (hNames : context.catalog.HasPlainNames)
    (hOrigin : origin ∈ context.catalog.models)
    (hPath :
      context.catalog.IsPath Model.Has origin hops target)
    (hFree : context.IsUnclaimed hops key)
    (value : FilterValue)
    (modifier : Modifier) :
    (constraint (Context.pathKey hops key) value).resolve
        context origin = .ok modifier ↔
      ∃ joins nested,
        context.JoinsAlong hops joins ∧
          (constraint key value).resolve context target =
            .ok nested ∧
          modifier =
            { nested with
              joins := joins.flatten ++ nested.joins } := by
  have hLinked := Catalog.isLinked_of_link hLink
  rw [resolve_constraint, resolve_constraint]
  exact hPath.resolveKey_eq_ok_iff hLinked hNames hOrigin
    hFree value modifier

/- The hops from a model along relations with some names. -/
private def hopsAlong?
    (catalog : Catalog) :
    Model → List String →
      Option (List (Model × Relation) × Model)
  | model, [] => some ([], model)
  | model, name :: names => do
      let relation ← model.relation? name
      let next ← catalog.model? relation.target
      let (hops, target) ← hopsAlong? catalog next names
      return ((model, relation) :: hops, target)

private theorem isPath_of_hopsAlong?
    {catalog : Catalog}
    {names : List String}
    (hHops :
      hopsAlong? catalog origin names = some (hops, target)) :
    catalog.IsPath Model.Has origin hops target := by
  induction names generalizing origin hops with
  | nil =>
      cases hHops
      exact .here
  | cons name names ih =>
      simp only [hopsAlong?, Option.bind_eq_bind,
        Option.bind_eq_some_iff] at hHops
      rcases hHops with
        ⟨relation, hRelation, next, hNext, ⟨rest, _⟩, hRest,
         hSame⟩
      cases hSame
      have hHas : Model.Has origin relation := by
        rw [Model.Has, (Model.relation?_eq_some hRelation).2]
        exact hRelation
      exact .hop hHas hNext (ih hRest)

/- Without custom filters only the last hop may be claimed. -/
private theorem isUnclaimed_of_getLast?
    {catalog : Catalog}
    (hLast :
      hops.getLast?.all
          (fun last =>
            (catalog.filterTarget? last.1
              (Context.pathKey [last] key)).isNone) =
        true) :
    (Context.ofCatalog catalog).IsUnclaimed hops key where
  custom _ _ _ := rfl
  registered last hSuffix := by
    rcases hSuffix with ⟨before, rfl⟩
    have hNone :
        catalog.filterTarget? last.1
          (Context.pathKey [last] key) = none := by
      simpa using hLast
    exact hNone

/- Books of authors, who live in countries. -/
private def voyages : List Model :=
  [{ name := "Country"
     fields := [
      .keyOfType "id" (.named FieldType.intName),
      .ofType "name" (.named FieldType.textName)] },
    { name := "Author"
      fields := [.keyOfType "id" (.named FieldType.intName)]
      relations := [.toOne "country" "Country"] },
    { name := "Book"
      fields := [.keyOfType "id" (.named FieldType.intName)]
      relations := [.toOne "author" "Author"] }]

/- The name of the country of the author of a book. -/
theorem resolve_pathKey_voyages :
    ∃ context book country hops,
      Catalog.link voyages = .ok context.catalog ∧
        context.catalog.IsPath Model.Has book hops country ∧
        context.IsUnclaimed hops "name" ∧
        ∃ joins nested,
          context.JoinsAlong hops joins ∧
            (constraint "name"
              (.literal (.string "Chile"))).resolve context
                country = .ok nested ∧
            (constraint "author__country__name"
              (.literal (.string "Chile"))).resolve context
                book =
              .ok { nested with
                joins := joins.flatten ++ nested.joins } := by
  have hFound :
      (Catalog.link voyages).toOption.any (fun catalog =>
        catalog.HasPlainNames ∧
          (catalog.model? "Book").any (fun book =>
            (hopsAlong? catalog book
              ["author", "country"]).any (fun path =>
                Context.pathKey path.1 "name" =
                    "author__country__name" ∧
                  path.1.getLast?.all (fun last =>
                    (catalog.filterTarget? last.1
                      (Context.pathKey [last]
                        "name")).isNone) ∧
                  ((constraint "author__country__name"
                    (.literal (.string "Chile"))).resolve
                      (.ofCatalog catalog)
                        book).toOption.isSome))) = true := by
    decide +kernel
  rcases Except.exists_of_any hFound with
    ⟨catalog, hLink, hTest⟩
  rcases of_decide_eq_true hTest with ⟨hNames, hTest⟩
  rcases (Option.any_eq_true _ _).mp hTest with
    ⟨book, hBook, hTest⟩
  rcases (Option.any_eq_true _ _).mp hTest with
    ⟨⟨hops, country⟩, hHops, hTest⟩
  rcases of_decide_eq_true hTest with ⟨hKey, hLast, hSome⟩
  rcases Option.isSome_iff_exists.mp hSome with
    ⟨modifier, hModifier⟩
  have hResult :=
    Except.toOption_eq_some_iff.mp hModifier
  have hPath := isPath_of_hopsAlong? hHops
  have hFree :
      (Context.ofCatalog catalog).IsUnclaimed hops "name" :=
    isUnclaimed_of_getLast? hLast
  have hOrigin := (Catalog.model?_eq_some hBook).1
  rw [← hKey] at hResult
  rcases (resolve_pathKey hLink hNames hOrigin hPath hFree _
      modifier).mp hResult with
    ⟨joins, nested, hJoins, hNested, rfl⟩
  rw [hKey] at hResult
  exact ⟨.ofCatalog catalog, book, country, hops, hLink,
    hPath, hFree, joins, nested, hJoins, hNested, hResult⟩

/- Shelves with two relations of one name. -/
private def cabinet : List Model :=
  [{ name := "Book"
     fields := [
      .keyOfType "id" (.named FieldType.intName),
      .ofType "title" (.named FieldType.textName)] },
    { name := "Record"
      fields := [
        .keyOfType "id" (.named FieldType.intName),
        .ofType "artist" (.named FieldType.textName)] },
    { name := "Shelf"
      fields := [.keyOfType "id" (.named FieldType.intName)]
      relations := [
        (Relation.toMany "items" "Book").withThrough
          "shelf_book",
        (Relation.toMany "items" "Record").withThrough
          "shelf_record"] }]

/-
  A key behind the second relation of a name is looked for
  behind the first one, though both parts can be resolved.
-/
theorem exists_pathKey_beyond_second_relation :
    ∃ context shelf record hops,
      Catalog.link cabinet = .ok context.catalog ∧
        context.catalog.HasPlainNames ∧
        shelf ∈ context.catalog.models ∧
        context.catalog.IsPath
          (fun model relation => relation ∈ model.relations)
          shelf hops record ∧
        context.IsUnclaimed hops "artist" ∧
        (∃ joins, context.JoinsAlong hops joins) ∧
        (∃ nested,
          (constraint "artist"
            (.literal (.string "x"))).resolve context record =
              .ok nested) ∧
        ¬ ∃ modifier,
          (constraint (Context.pathKey hops "artist")
            (.literal (.string "x"))).resolve context shelf =
              .ok modifier := by
  have hFound :
      (Catalog.link cabinet).toOption.any (fun catalog =>
        catalog.HasPlainNames ∧
          (catalog.model? "Shelf").any (fun shelf =>
            shelf.relations.any (fun items =>
              (catalog.model? items.target).any (fun record =>
                (catalog.filterTarget? shelf
                    (Context.pathKey [(shelf, items)]
                      "artist")).isNone ∧
                  (catalog.relationJoins shelf
                    items).toOption.isSome ∧
                  ((constraint "artist"
                    (.literal (.string "x"))).resolve
                      (.ofCatalog catalog)
                        record).toOption.isSome ∧
                  ((constraint
                    (Context.pathKey [(shelf, items)]
                      "artist")
                    (.literal (.string "x"))).resolve
                      (.ofCatalog catalog)
                        shelf).toOption.isNone)))) =
        true := by
    decide +kernel
  rcases Except.exists_of_any hFound with
    ⟨catalog, hLink, hTest⟩
  rcases of_decide_eq_true hTest with ⟨hNames, hTest⟩
  rcases (Option.any_eq_true _ _).mp hTest with
    ⟨shelf, hShelf, hTest⟩
  rcases List.any_eq_true.mp hTest with
    ⟨items, hItems, hTest⟩
  rcases (Option.any_eq_true _ _).mp hTest with
    ⟨record, hRecord, hTest⟩
  rcases of_decide_eq_true hTest with
    ⟨hLast, hJoins, hNested, hNone⟩
  rcases Option.isSome_iff_exists.mp hJoins with
    ⟨joins, hJoins⟩
  rcases Option.isSome_iff_exists.mp hNested with
    ⟨nested, hNested⟩
  refine ⟨.ofCatalog catalog, shelf, record,
    [(shelf, items)], hLink, hNames,
    (Catalog.model?_eq_some hShelf).1,
    .hop hItems hRecord .here,
    isUnclaimed_of_getLast? hLast,
    ⟨[joins],
      .cons (Except.toOption_eq_some_iff.mp hJoins) .nil⟩,
    ⟨nested, Except.toOption_eq_some_iff.mp hNested⟩, ?_⟩
  rintro ⟨modifier, hModifier⟩
  rw [Except.toOption_eq_some_iff.mpr hModifier] at hNone
  cases hNone

end FilterTree

end Relmap
