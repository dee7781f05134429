import Relmap.Proofs.Query.Faults
import Relmap.Proofs.Query.Keys
import Relmap.Proofs.Query.Meaning
import Relmap.Proofs.Text.Ordered

/-
  Resolution accepts the keys of the grammar and nothing else.

  Any other text is refused with the part that is left when
  hops are stripped off, and with the names that were
  possible there.

  Main declarations:
    * `Context.resolveWithin_of_isKey`
    * `Context.resolveWithin_of_not_isKey`
    * `FilterTree.resolve_constraint_field_iff`
-/

------------------------------------------------------------
-- One Step Of Resolution
------------------------------------------------------------

namespace Relmap

namespace Context

open Except

variable {context : Context}
variable {model : Model}
variable {key : String}
variable {value : Value}
variable {steps : Nat}

/- A registered key is resolved where it is. -/
theorem resolveWithin_of_filterTarget?
    {backing : String}
    (hBacking : context.backingKey model key = .ok backing)
    (hTarget :
      (context.catalog.filterTarget? model backing).isSome =
        true) :
    Lacks .field
      (context.resolveWithin value (steps + 1) model key) := by
  unfold resolveWithin
  rw [hBacking]
  apply lacks_bind (lacks_ok backing)
  rintro _ ⟨⟩
  split
  · exact resolveCustom_lacks (by decide) (by decide) _ _
  · have hHop : context.hop? model backing = none := by
      rw [hop?, if_pos hTarget]
    rw [hHop]
    exact resolveDirect_lacks (by decide) (by decide)
      hTarget value

/- A foreign key stands for its field. -/
theorem resolveWithin_of_relation
    (hLinked : context.catalog.IsLinked)
    (hNames : context.catalog.HasPlainNames)
    (hModel : model ∈ context.catalog.models)
    {relation : Relation}
    (hRelation : model.relation? key = some relation)
    (hFollow : context.catalog.IsFollowable relation) :
    Lacks .field
      (context.resolveWithin value (steps + 1) model key) := by
  rcases Model.relation?_eq_some hRelation with ⟨hMember, hName⟩
  have hBacking :
      context.backingKey model key =
        .ok (relation.sourceField?.getD key) := by
    rw [backingKey, hRelation]
  apply resolveWithin_of_filterTarget? hBacking
  cases hKind : relation.foreignKey? with
  | some foreign =>
      have hSource :
          relation.sourceField? = some foreign.sourceField := by
        rw [Relation.sourceField?, hKind]
        rfl
      have hField :=
        hLinked.backed model hModel relation hMember
          foreign.sourceField hSource
      rcases Option.isSome_iff_exists.mp hField with
        ⟨field, hField⟩
      rcases Model.field?_eq_some hField with ⟨hOwn, hSame⟩
      rw [hSource, Option.getD_some, ← hSame]
      exact filterTarget?_of_field hNames hModel hOwn .exact
  | none =>
      have hSource : relation.sourceField? = none := by
        rw [Relation.sourceField?, hKind]
        rfl
      have hHas := Model.has_of_relation?_eq_some hRelation
      rw [hSource, Option.getD_none, ← hName]
      exact filterTarget?_of_relation hLinked hNames hModel
        hHas hFollow hKind .exact

/- A custom filter is no relation, and comes first. -/
theorem resolveWithin_of_custom
    (hRelation : model.relation? key = none)
    (hCustom : context.custom.contains key = true) :
    Lacks .field
      (context.resolveWithin value (steps + 1) model key) := by
  have hBacking : context.backingKey model key = .ok key := by
    rw [backingKey, hRelation]
    dsimp only
    rw [accepts, hCustom]
    simp
  rw [CustomFilters.contains_eq_isSome_get?] at hCustom
  rcases Option.isSome_iff_exists.mp hCustom with
    ⟨filter, hFilter⟩
  unfold resolveWithin
  rw [hBacking]
  apply lacks_bind (lacks_ok key)
  rintro _ ⟨⟩
  rw [hFilter]
  exact resolveCustom_lacks (by decide) (by decide) _ _

/- What names something of the model is not refused. -/
theorem resolveWithin_of_knows
    (hLinked : context.catalog.IsLinked)
    (hNames : context.catalog.HasPlainNames)
    (hFollow : context.catalog.IsNavigable)
    (hModel : model ∈ context.catalog.models)
    (hKnows : context.Knows model key) :
    Lacks .field
      (context.resolveWithin value (steps + 1) model key) := by
  cases hRelation : model.relation? key with
  | some relation =>
      have hMember := (Model.relation?_eq_some hRelation).1
      exact resolveWithin_of_relation hLinked hNames hModel
        hRelation (hFollow model hModel relation hMember)
  | none =>
      rcases hKnows with hSome | hCustom | hTarget
      · rw [hRelation] at hSome
        cases hSome
      · exact resolveWithin_of_custom hRelation hCustom
      · have hBacking :
            context.backingKey model key = .ok key := by
          rw [backingKey, hRelation]
          dsimp only
          rw [accepts, hTarget]
          simp
        exact resolveWithin_of_filterTarget? hBacking hTarget

/- Anything else hops along the relation of its head. -/
theorem resolveWithin_of_step?
    (hKnows : ¬ context.Knows model key)
    {relation : Relation}
    {rest : String}
    (hStep : model.step? key = some (relation, rest)) :
    context.resolveWithin value (steps + 1) model key =
      (do
        let target ← context.catalog.require relation.target
        let joins ←
          context.catalog.relationJoins model relation
        let nested ←
          context.resolveWithin value steps target rest
        return (Modifier.ofJoins joins).and nested) := by
  simp only [Knows, not_or, Bool.not_eq_true,
    Option.isSome_eq_false_iff, Option.isNone_iff_eq_none]
    at hKnows
  rcases hKnows with ⟨hRelation, hCustom, hTarget⟩
  rcases Model.step?_eq_some_iff.mp hStep with
    ⟨head, hCut, hHead⟩
  have hBacking : context.backingKey model key = .ok key := by
    rw [backingKey, hRelation]
    dsimp only
    rw [accepts, Text.headSegment, hCut]
    simp [hHead]
  have hFilter :=
    CustomFilters.get?_eq_none_of_contains hCustom
  have hHop :
      context.hop? model key = some (relation, rest) := by
    rw [hop?, hTarget, if_neg (by simp)]
    exact hStep
  conv_lhs => unfold resolveWithin
  rw [hBacking]
  simp only [bind, Except.bind, hFilter, hHop]

/- Without such a relation it is refused. -/
theorem resolveWithin_of_step?_eq_none
    (hKnows : ¬ context.Knows model key)
    (hStep : model.step? key = none) :
    context.resolveWithin value (steps + 1) model key =
      .error (context.unknownKey model key) := by
  simp only [Knows, not_or, Bool.not_eq_true,
    Option.isSome_eq_false_iff, Option.isNone_iff_eq_none]
    at hKnows
  rcases hKnows with ⟨hRelation, hCustom, hTarget⟩
  have hHead :
      model.relation? (Text.headSegment key) = none := by
    rw [Text.headSegment]
    cases hCut : Text.cutFirst? key with
    | none => exact hRelation
    | some parts =>
        rcases parts with ⟨head, rest⟩
        cases hFound : model.relation? head with
        | none => rfl
        | some relation =>
            have hSome :=
              Model.step?_eq_some_iff.mpr
                ⟨head, hCut, hFound⟩
            rw [hStep] at hSome
            cases hSome
  have hBacking :
      context.backingKey model key =
        .error (context.unknownKey model key) := by
    rw [backingKey, hRelation]
    simp [accepts, hHead, hCustom, hTarget]
  unfold resolveWithin
  rw [hBacking]
  rfl

end Context

end Relmap


------------------------------------------------------------
-- Runs Of Resolution
------------------------------------------------------------

namespace Relmap

namespace Context

open Except

variable {context : Context}
variable {model : Model}
variable {key : String}
variable {value : Value}

/- Keys are not refused, however many steps are allowed. -/
theorem resolveWithin_of_isKey
    (hLinked : context.catalog.IsLinked)
    (hNames : context.catalog.HasPlainNames)
    (hFollow : context.catalog.IsNavigable)
    (steps : Nat)
    (hModel : model ∈ context.catalog.models)
    (hKey : context.IsKey Model.Has model key) :
    Lacks .field
      (context.resolveWithin value steps model key) := by
  induction steps generalizing model key with
  | zero =>
      apply lacks_error
      intro hKind
      cases hKind
  | succ steps ih =>
      by_cases hKnows : context.Knows model key
      · exact resolveWithin_of_knows hLinked hNames hFollow
          hModel hKnows
      · rcases hKey.knows_or_step hLinked hNames hFollow
            hModel with
          hKnown | ⟨relation, rest, target, hStep, hTarget, hRest⟩
        · exact absurd hKnown hKnows
        · have hMember := (Catalog.model?_eq_some hTarget).1
          rw [resolveWithin_of_step? hKnows hStep,
            Catalog.require_eq_ok_iff.mpr hTarget]
          apply lacks_bind (lacks_ok target)
          rintro _ ⟨⟩
          apply lacks_bind
            (Catalog.relationJoins_lacks (by decide) _ _ _)
          intro joins _
          apply lacks_bind (ih hMember hRest)
          intro nested _
          exact lacks_ok _

/-
  What is no key is refused where the hops end. Every hop
  shortens the key, so there are steps enough for all.
-/
theorem resolveWithin_of_not_isKey
    (hLinked : context.catalog.IsLinked)
    (hFollow : context.catalog.IsNavigable)
    {steps : Nat}
    (hSteps : key.length < steps)
    (hModel : model ∈ context.catalog.models)
    (hKey : ¬ context.IsKey Model.Has model key) :
    ∃ reached left,
      context.catalog.Strips model key reached left ∧
        context.resolveWithin value steps model key =
          .error (context.unknownKey reached left) := by
  induction steps generalizing model key with
  | zero => omega
  | succ steps ih =>
      have hKnows : ¬ context.Knows model key := by
        intro hKnows
        exact hKey (isKey_of_knows hKnows)
      cases hStep : model.step? key with
      | none =>
          exact ⟨model, key, .stop hStep,
            resolveWithin_of_step?_eq_none hKnows hStep⟩
      | some step =>
          rcases step with ⟨relation, rest⟩
          rcases Model.step?_eq_some hStep with
            ⟨_, _, hRelation⟩
          rcases hLinked.relationJoins_eq_ok hModel hRelation
                (hFollow model hModel relation hRelation) with
            ⟨target, joins, hTarget, hJoins⟩
          have hMember := (Catalog.model?_eq_some hTarget).1
          have hLength := Model.length_lt_of_step? hStep
          have hRest : ¬ context.IsKey Model.Has target rest := by
            intro hRest
            exact hKey (.of_step hStep hTarget hRest)
          rcases ih (by omega) hMember hRest with
            ⟨reached, left, hStrips, hResult⟩
          refine ⟨reached, left,
            .hop hStep hTarget hStrips, ?_⟩
          rw [resolveWithin_of_step? hKnows hStep,
            Catalog.require_eq_ok_iff.mpr hTarget, hJoins]
          simp only [bind, Except.bind, hResult]

/- The limit leaves a step for every character and more. -/
theorem length_lt_stepLimit
    (context : Context)
    (model : Model)
    (key : String) :
    key.length < context.stepLimit model key := by
  unfold stepLimit
  dsimp only
  rw [restCount, List.length_cons, Nat.succ_mul]
  omega

end Context

end Relmap

------------------------------------------------------------
-- Allowed Names
------------------------------------------------------------

namespace Relmap

namespace Context

variable {context : Context}
variable {model : Model}

/- What a refusal allows is what the model and context have. -/
theorem mem_allowedNames_iff
    {name : String} :
    name ∈ context.allowedNames model ↔
      name ∈ model.fields.map Field.name ∨
        name ∈ model.relations.map Relation.name ∨
        context.custom.contains name = true := by
  rw [allowedNames, Text.mem_sortUnique, List.mem_append,
    List.mem_append, CustomFilters.mem_keys_iff, or_assoc]

theorem pairwise_allowedNames
    (context : Context)
    (model : Model) :
    (context.allowedNames model).Pairwise (· < ·) :=
  Text.pairwise_sortUnique _

end Context

end Relmap

------------------------------------------------------------
-- Constraints
------------------------------------------------------------

namespace Relmap

namespace FilterTree

open Except

/-
  A constraint is refused as a filter if and only if its key
  is not one of the grammar. The refusal names what is left
  of the key when hops are stripped off, and the names that
  the model that is reached would have allowed.
-/
theorem resolve_constraint_field_iff
    {models : List Model}
    {context : Context}
    (hLink : Catalog.link models = .ok context.catalog)
    (hNames : context.catalog.HasPlainNames)
    (hDeclared :
      ∀ original ∈ models,
        ∀ relation ∈ original.relations,
          context.catalog.IsFollowable relation)
    {model : Model}
    (hModel : model ∈ context.catalog.models)
    (key : String)
    (value : FilterValue) :
    ((∃ fault,
        (constraint key value).resolve context model =
            .error fault ∧
          fault.kind = .field) ↔
      ¬ context.IsKey Model.Has model key) ∧
    ∀ fault,
      (constraint key value).resolve context model =
          .error fault →
        fault.kind = .field →
          ∃ reached left allowed,
            context.catalog.Strips model key reached left ∧
              fault = .unknownKey left allowed ∧
              allowed.Pairwise (· < ·) ∧
              ∀ name,
                name ∈ allowed ↔
                  name ∈ reached.fields.map Field.name ∨
                    name ∈ reached.relations.map
                      Relation.name ∨
                    context.custom.contains name = true := by
  have hLinked := Catalog.isLinked_of_link hLink
  have hFollow :=
    Catalog.isNavigable_of_link hLink hDeclared
  have hAccepted :
      context.IsKey Model.Has model key →
        Lacks .field
          ((constraint key value).resolve context model) := by
    intro hKey
    rw [resolve_constraint]
    exact Context.resolveWithin_of_isKey hLinked hNames
      hFollow _ hModel hKey
  have hRefused :
      ¬ context.IsKey Model.Has model key →
        ∃ reached left,
          context.catalog.Strips model key reached left ∧
            (constraint key value).resolve context model =
              .error (context.unknownKey reached left) := by
    intro hKey
    rw [resolve_constraint]
    exact Context.resolveWithin_of_not_isKey hLinked hFollow
      (Context.length_lt_stepLimit context model key)
      hModel hKey
  refine ⟨⟨?_, ?_⟩, ?_⟩
  · rintro ⟨fault, hFault, hKind⟩ hKey
    exact hAccepted hKey fault hFault hKind
  · intro hKey
    rcases hRefused hKey with ⟨reached, left, _, hResult⟩
    exact ⟨_, hResult, rfl⟩
  · intro fault hFault hKind
    have hKey : ¬ context.IsKey Model.Has model key := by
      intro hKey
      exact hAccepted hKey fault hFault hKind
    rcases hRefused hKey with ⟨reached, left, hStrips, hResult⟩
    rw [hFault] at hResult
    cases hResult
    exact ⟨reached, left, context.allowedNames reached,
      hStrips, rfl, Context.pairwise_allowedNames _ _,
      fun _ => Context.mem_allowedNames_iff⟩

/- The catalog of declarations that can be linked. -/
private def linkedCatalog (models : List Model) : Catalog :=
  (Catalog.link models).toOption.getD ⟨[]⟩

private theorem link_eq_linkedCatalog
    {models : List Model}
    (hLink : (Catalog.link models).isOk = true) :
    Catalog.link models = .ok (linkedCatalog models) := by
  unfold linkedCatalog
  cases hResult : Catalog.link models with
  | ok catalog => rfl
  | error fault =>
      rw [hResult] at hLink
      cases hLink

/- The model of a linked catalog with a name. -/
private def linkedModel
    (models : List Model)
    (name : String) : Model :=
  ((linkedCatalog models).model? name).getD (.named name)

private theorem linkedModel_mem
    {models : List Model}
    {name : String}
    (hFound :
      ((linkedCatalog models).model? name).isSome = true) :
    linkedModel models name ∈ (linkedCatalog models).models := by
  rcases Option.isSome_iff_exists.mp hFound with ⟨model, hModel⟩
  rw [linkedModel, hModel]
  exact (Catalog.model?_eq_some hModel).1

/- A model with a key and a text. -/
private def textModel
    (name : String)
    (text : String)
    (relations : List Relation) : Model :=
  { name := name
    fields := [
      .keyOfType "id" (.named FieldType.intName),
      .ofType text (.named FieldType.textName)]
    relations := relations }

/- Authors and books that refer to each other. -/
private def library : List Model :=
  [textModel "Author" "name"
      [.backward "books" "Book" "author_id"],
    textModel "Book" "title" [.toOne "author" "Author"]]

/- A hop to authors and back ends at books. -/
theorem resolve_constraint_field_iff_library :
    ∃ context : Context,
      Catalog.link library = .ok context.catalog ∧
        ∃ book ∈ context.catalog.models,
          ¬ context.IsKey Model.Has book
            "author__books__titel__gt" ∧
          ∃ reached left,
            context.catalog.Strips book
              "author__books__titel__gt" reached left := by
  let context := Context.ofCatalog (linkedCatalog library)
  have hLink :
      Catalog.link library = .ok context.catalog :=
    link_eq_linkedCatalog (by decide +kernel)
  have hNames : context.catalog.HasPlainNames :=
    ⟨by decide +kernel, by decide +kernel⟩
  have hDeclared :
      ∀ original ∈ library,
        ∀ relation ∈ original.relations,
          context.catalog.IsFollowable relation := by
    decide +kernel
  let book := linkedModel library "Book"
  have hBook : book ∈ context.catalog.models :=
    linkedModel_mem (by decide +kernel)
  have hExact :=
    resolve_constraint_field_iff hLink hNames hDeclared hBook
      "author__books__titel__gt" (.literal (.int32 2))
  have hLacks :
      ¬ Lacks .field
        ((constraint "author__books__titel__gt"
          (.literal (.int32 2))).resolve context book) := by
    decide +kernel
  rcases exists_of_not_lacks hLacks with ⟨fault, hFault, hKind⟩
  rcases hExact.2 fault hFault hKind with
    ⟨reached, left, _, hStrips, _⟩
  exact ⟨context, hLink, book, hBook,
    hExact.1.mp ⟨fault, hFault, hKind⟩,
    reached, left, hStrips⟩

/- Two relations of one name, of which the first counts. -/
private def shelves : List Model :=
  [textModel "Book" "title" [],
    textModel "Record" "artist" [],
    textModel "Shelf" "room" [
      (Relation.toMany "items" "Book").withThrough
        "shelf_book",
      (Relation.toMany "items" "Record").withThrough
        "shelf_record"]]

/-
  If every relation of a model opened a hop then keys beyond
  the second one of a name would be refused wrongly.
-/
theorem exists_refused_beyond_second_relation :
    ∃ catalog shelf,
      Catalog.link shelves = .ok catalog ∧
      catalog.HasPlainNames ∧
      (∀ original ∈ shelves,
        ∀ relation ∈ original.relations,
          catalog.IsFollowable relation) ∧
      shelf ∈ catalog.models ∧
      (Context.ofCatalog catalog).IsKey
        (fun model relation => relation ∈ model.relations)
        shelf "items__artist" ∧
      ∃ fault,
        (constraint "items__artist"
            (.literal (.string "x"))).resolve
            (.ofCatalog catalog) shelf = .error fault ∧
          fault.kind = .field := by
  let catalog := linkedCatalog shelves
  let shelf := linkedModel shelves "Shelf"
  have hTarget :
      ∃ relation ∈ shelf.relations,
        relation.name = "items" ∧
          ((catalog.model? relation.target).bind
            (Model.field? · "artist")).isSome = true := by
    decide +kernel
  have hLacks :
      ¬ Lacks .field
        ((constraint "items__artist"
          (.literal (.string "x"))).resolve
          (.ofCatalog catalog) shelf) := by
    decide +kernel
  refine ⟨catalog, shelf,
    link_eq_linkedCatalog (by decide +kernel),
    ⟨by decide +kernel, by decide +kernel⟩,
    by decide +kernel,
    linkedModel_mem (by decide +kernel),
    ?_, exists_of_not_lacks hLacks⟩
  rcases hTarget with ⟨relation, hRelation, hName, hArtist⟩
  rcases Option.isSome_iff_exists.mp hArtist with
    ⟨artist, hArtist⟩
  rcases Option.bind_eq_some_iff.mp hArtist with
    ⟨record, hRecord, hField⟩
  rcases Model.field?_eq_some hField with ⟨hMember, hText⟩
  have hKey :
      "items__artist" =
        relation.name ++ "__" ++
          Lookup.exact.key artist.name := by
    rw [hName, hText]
    decide +kernel
  rw [hKey]
  exact .hop hRelation hRecord (.field .exact hMember)

end FilterTree

end Relmap
