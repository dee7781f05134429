import Relmap.Proofs.Query.Acceptance
import Relmap.Proofs.Query.Configuration
import Relmap.Proofs.Query.Route

/-
  Resolution ends if no field that backs a foreign key has a
  separator in its name.

  A hop takes the first segment off the key, so there are no
  more hops than separators. A foreign key is replaced by
  the field that backs it, which is no hop as long as its
  name is plain. Otherwise the replacement can be the start
  of hops, and they can lead back to where they started.

  Main declarations:
    * `Text.separatorCount`
    * `Model.HasPlainSources`
    * `Context.nextHop?`
    * `Context.ResolvesByHops`
    * `Context.Settles`
    * `Context.HopsAtMost`
    * `Context.settles_succ`
    * `Context.settles_of_plain`
    * `Context.hopsAtMost_of_plain`
    * `Context.settles_stepLimit`
    * `Context.resolveKey_of_step?`
    * `FilterTree.ends_of_plain_sources`
-/

------------------------------------------------------------
-- Separators
------------------------------------------------------------

namespace Relmap

namespace Text

/- The number of separators that a name is cut at. -/
def separatorCount (name : String) : Nat :=
  (split name).length - 1

variable {name head rest : String}

/- The first cut leaves one separator less. -/
theorem separatorCount_of_cutFirst?
    (hCut : cutFirst? name = some (head, rest)) :
    separatorCount name = separatorCount rest + 1 := by
  have hSome := List.length_pos_iff.mpr (split_ne_nil rest)
  rw [separatorCount, separatorCount,
    split_of_cutFirst? hCut, List.length_cons]
  omega

/- There are fewer than characters. -/
theorem separatorCount_le_length (name : String) :
    separatorCount name ≤ name.length := by
  cases hCut : cutFirst? name with
  | none =>
      rw [separatorCount, split_of_cutFirst?_eq_none hCut]
      exact Nat.zero_le _
  | some parts =>
      have hRest := separatorCount_le_length parts.2
      have hShorter := cutFirst?_length hCut
      rw [separatorCount_of_cutFirst? hCut]
      omega
  termination_by name.length
  decreasing_by exact cutFirst?_length hCut

end Text

end Relmap

------------------------------------------------------------
-- Hops Of The Resolver
------------------------------------------------------------

namespace Relmap

open Except

/- No field that backs a foreign key has a separator. -/
def Model.HasPlainSources (model : Model) : Prop :=
  ∀ source ∈ Context.sourceFields model,
    Text.IsSegment source

instance (model : Model) :
    Decidable model.HasPlainSources :=
  inferInstanceAs (Decidable (∀ source ∈ _, _))

namespace Context

/-
  The model and the key that the resolver goes on with after
  a model and a key, if it goes on.
-/
def nextHop?
    (context : Context)
    (model : Model)
    (key : String) : Option (Model × String) := do
  let backing ← (context.backingKey model key).toOption
  match context.custom.get? backing with
  | some _ => none
  | none => do
      let (relation, rest) ← context.hop? model backing
      let target ←
        (context.catalog.require relation.target).toOption
      let _ ←
        (context.catalog.relationJoins model
          relation).toOption
      return (target, rest)

variable {context : Context}
variable {model target : Model}
variable {key rest : String}
variable {value : Value}
variable {steps : Nat}

/- A hop is along a relation that leads to its target. -/
theorem nextHop?_eq_some
    (hNext : context.nextHop? model key = some (target, rest)) :
    ∃ backing relation joins,
      context.backingKey model key = .ok backing ∧
        context.custom.get? backing = none ∧
        context.hop? model backing = some (relation, rest) ∧
        context.catalog.require relation.target =
          .ok target ∧
        context.catalog.relationJoins model relation =
          .ok joins := by
  rcases Option.bind_eq_some_iff.mp hNext with
    ⟨backing, hBacking, hNext⟩
  rw [Except.toOption_eq_some_iff] at hBacking
  dsimp only at hNext
  split at hNext
  · cases hNext
  · rename_i hCustom
    rcases Option.bind_eq_some_iff.mp hNext with
      ⟨⟨relation, left⟩, hHop, hNext⟩
    rcases Option.bind_eq_some_iff.mp hNext with
      ⟨found, hTarget, hNext⟩
    rcases Option.bind_eq_some_iff.mp hNext with
      ⟨joins, hJoins, hPair⟩
    rw [Except.toOption_eq_some_iff] at hTarget hJoins
    cases hPair
    exact ⟨backing, relation, joins, hBacking, hCustom, hHop,
      hTarget, hJoins⟩

/- The resolver takes a step for a hop. -/
theorem resolveWithin_of_nextHop?
    (hNext : context.nextHop? model key = some (target, rest))
    (value : Value) :
    ∃ joins, ∀ steps,
      context.resolveWithin value (steps + 1) model key =
        (context.resolveWithin value steps target rest).map
          (Modifier.ofJoins joins).and := by
  rcases nextHop?_eq_some hNext with
    ⟨backing, relation, joins, hBacking, hCustom, hHop,
     hTarget, hJoins⟩
  refine ⟨joins, fun steps => ?_⟩
  conv_lhs => unfold resolveWithin
  rw [hBacking]
  simp only [bind, Except.bind, hCustom, hHop, hTarget,
    hJoins]
  cases context.resolveWithin value steps target rest <;> rfl

/- A registered filter needs no further step. -/
theorem resolveDirect_lacks_endless
    (context : Context)
    (model : Model)
    (key : String)
    (value : Value) :
    Lacks .endless
      (context.resolveDirect model key value) := by
  apply lacks_bind
    (directTarget_lacks (by decide) model key value)
  intro pair _
  apply lacks_bind
  · unfold targetJoins
    split
    · exact lacks_ok _
    · exact lacks_bind (model.keyColumn_lacks (by decide))
        fun _ _ => lacks_ok _
  · intro joins _
    exact lacks_bind
      (Lookup.criterion_lacks (by decide) _ _ _)
      fun _ _ => lacks_ok _

/-
  Without a hop the result does not depend on the steps. The
  cases follow the resolver up to where it stops.
-/
theorem resolveWithin_of_nextHop?_eq_none
    (hNext : context.nextHop? model key = none)
    (value : Value) :
    ∃ result,
      Lacks .endless result ∧
        ∀ steps,
          context.resolveWithin value (steps + 1) model key =
            result := by
  unfold nextHop? at hNext
  unfold resolveWithin
  rcases hBacking : context.backingKey model key with
    fault | backing
  · exact ⟨_,
      .error_of_eq (backingKey_lacks (by decide) model key)
        hBacking,
      fun _ => rfl⟩
  simp only [hBacking, bind, Except.bind, Except.toOption,
    Option.bind] at hNext ⊢
  rcases hCustom : context.custom.get? backing with
    _ | filter
  rotate_left
  · exact ⟨_,
      resolveCustom_lacks (by decide) (by decide) filter value,
      fun _ => rfl⟩
  rcases hHop : context.hop? model backing with
    _ | ⟨relation, rest⟩
  · exact ⟨_,
      resolveDirect_lacks_endless context model backing value,
      fun _ => rfl⟩
  rcases hTarget :
      context.catalog.require relation.target with
    fault | target
  · exact ⟨_,
      .error_of_eq
        (context.catalog.require_lacks (by decide) _) hTarget,
      fun _ => by simp only [hTarget]⟩
  rcases hJoins :
      context.catalog.relationJoins model relation with
    fault | joins
  · exact ⟨_,
      .error_of_eq
        (context.catalog.relationJoins_lacks (by decide) model
          relation)
        hJoins,
      fun _ => by simp only [hTarget, hJoins]⟩
  simp [hCustom, hHop, hTarget, hJoins] at hNext

/-
  The resolver goes on by hops only. For a hop it takes one
  step and adds the joins of the relation to what it goes on
  with; without one its result is there at once.
-/
structure ResolvesByHops (context : Context) : Prop where
  hop {model target : Model} {key rest : String}
      (hNext :
        context.nextHop? model key = some (target, rest))
      (value : Value) :
    ∃ joins, ∀ steps,
      context.resolveWithin value (steps + 1) model key =
        (context.resolveWithin value steps target rest).map
          (Modifier.ofJoins joins).and
  last {model : Model} {key : String}
      (hNext : context.nextHop? model key = none)
      (value : Value) :
    ∃ result, ∀ steps,
      context.resolveWithin value (steps + 1) model key =
        result

theorem resolvesByHops (context : Context) :
    context.ResolvesByHops where
  hop := resolveWithin_of_nextHop?
  last hNext value := by
    rcases resolveWithin_of_nextHop?_eq_none hNext value with
      ⟨result, _, hResult⟩
    exact ⟨result, hResult⟩

end Context

end Relmap

------------------------------------------------------------
-- Resolutions That Settle
------------------------------------------------------------

namespace Relmap

open Except

namespace Context

/-
  A resolution has ended after so many steps: it is not cut
  off, and more steps do not change its result.
-/
structure Settles
    (context : Context)
    (value : Value)
    (steps : Nat)
    (model : Model)
    (key : String) : Prop where
  ends :
    Lacks .endless
      (context.resolveWithin value steps model key)
  stable :
    ∀ more, steps ≤ more →
      context.resolveWithin value more model key =
        context.resolveWithin value steps model key

/-
  A key leads to at most so many hops one after another, and
  every one of them leaves a shorter key.
-/
def HopsAtMost
    (context : Context)
    (count : Nat)
    (model : Model)
    (key : String) : Prop :=
  ∀ path : List (Model × String),
    List.IsChain
      (fun here next =>
        context.nextHop? here.1 here.2 = some next)
      ((model, key) :: path) →
      path.length ≤ count ∧
        List.IsChain
          (fun here next => next.2.length < here.2.length)
          ((model, key) :: path)

variable {context : Context}
variable {model target : Model}
variable {key rest : String}
variable {value : Value}
variable {steps : Nat}

/- A resolution settles a step after what it goes on with. -/
theorem settles_succ
    (hRest :
      ∀ target rest,
        context.nextHop? model key = some (target, rest) →
          context.Settles value steps target rest) :
    context.Settles value (steps + 1) model key := by
  cases hNext : context.nextHop? model key with
  | none =>
      rcases resolveWithin_of_nextHop?_eq_none hNext value with
        ⟨result, hLacks, hResult⟩
      constructor
      · rw [hResult]
        exact hLacks
      · intro more hMore
        rcases Nat.exists_eq_add_of_le' hMore with ⟨extra, rfl⟩
        rw [← Nat.add_assoc, hResult, hResult]
  | some next =>
      rcases next with ⟨target, rest⟩
      rcases hRest target rest hNext with ⟨hEnds, hStable⟩
      rcases resolveWithin_of_nextHop? hNext value with
        ⟨joins, hResult⟩
      constructor
      · rw [hResult]
        exact hEnds.map _
      · intro more hMore
        rcases Nat.exists_eq_add_of_le' hMore with ⟨extra, rfl⟩
        rw [← Nat.add_assoc, hResult, hResult,
          hStable _ (Nat.le_add_left steps extra)]

/- A hop leads to a model of the catalog. -/
theorem mem_models_of_nextHop?
    (hNext : context.nextHop? model key = some (target, rest)) :
    target ∈ context.catalog.models := by
  rcases nextHop?_eq_some hNext with
    ⟨_, _, _, _, _, _, hTarget, _⟩
  exact (Catalog.model?_eq_some
    (Catalog.require_eq_ok_iff.mp hTarget)).1

/- A hop takes the first segment off its key. -/
theorem cutFirst?_of_hop?
    {relation : Relation}
    (hHop : context.hop? model key = some (relation, rest)) :
    ∃ head, Text.cutFirst? key = some (head, rest) := by
  unfold hop? at hHop
  split at hHop
  · cases hHop
  · rcases Option.bind_eq_some_iff.mp hHop with
      ⟨⟨head, tail⟩, hCut, hFound⟩
    rcases Option.bind_eq_some_iff.mp hFound with
      ⟨_, _, hSame⟩
    cases hSame
    exact ⟨head, hCut⟩

/- A key stands for itself or for a field that backs one. -/
theorem backing_mem
    (model : Model)
    (key : String) :
    model.backing key ∈ key :: sourceFields model := by
  rw [Model.backing]
  cases hRelation : model.relation? key with
  | none => exact List.mem_cons_self
  | some relation =>
      cases hSource : relation.sourceField? with
      | none => simp [hSource]
      | some source =>
          have hMember :=
            (Model.relation?_eq_some hRelation).1
          simp only [Option.bind_some, hSource,
            Option.getD_some]
          exact List.mem_cons_of_mem _
            (List.mem_filterMap.mpr
              ⟨relation, hMember, hSource⟩)

/-
  What is left after a hop is cut off from the key itself or
  from the field that backs it.
-/
theorem cutFirst?_of_nextHop?
    (hNext : context.nextHop? model key = some (target, rest)) :
    ∃ text ∈ key :: sourceFields model,
      ∃ head, Text.cutFirst? text = some (head, rest) := by
  rcases nextHop?_eq_some hNext with
    ⟨backing, relation, _, hBacking, _, hHop, _, _⟩
  cases backingKey_eq_ok hBacking
  exact ⟨_, backing_mem model key, cutFirst?_of_hop? hHop⟩

/- A field with a plain name is not cut. -/
theorem cutFirst?_of_plain
    (hPlain : model.HasPlainSources)
    (hNext : context.nextHop? model key = some (target, rest)) :
    ∃ head, Text.cutFirst? key = some (head, rest) := by
  rcases cutFirst?_of_nextHop? hNext with
    ⟨text, hText, head, hCut⟩
  rcases List.mem_cons.mp hText with rfl | hSource
  · exact ⟨head, hCut⟩
  · rw [(hPlain text hSource).cutFirst?_eq_none] at hCut
    cases hCut

end Context

end Relmap

------------------------------------------------------------
-- Plain Sources
------------------------------------------------------------

namespace Relmap

namespace Context

variable {context : Context}
variable {model : Model}
variable {key : String}
variable {steps : Nat}

/-
  By induction on the steps: every hop takes a separator
  away and leads to a model with plain sources again.
-/
theorem settles_of_plain
    (hCatalog :
      ∀ other ∈ context.catalog.models, other.HasPlainSources)
    (value : Value)
    (hPlain : model.HasPlainSources)
    (hSteps : Text.separatorCount key < steps) :
    context.Settles value steps model key := by
  induction steps generalizing model key with
  | zero => cases hSteps
  | succ steps ih =>
      apply settles_succ
      intro target rest hNext
      rcases cutFirst?_of_plain hPlain hNext with ⟨head, hCut⟩
      have hCount := Text.separatorCount_of_cutFirst? hCut
      apply ih (hCatalog target (mem_models_of_nextHop? hNext))
      omega

/- So there are no more hops than separators. -/
theorem hopsAtMost_of_plain
    (hCatalog :
      ∀ other ∈ context.catalog.models, other.HasPlainSources)
    (hPlain : model.HasPlainSources) :
    context.HopsAtMost (Text.separatorCount key)
      model key := by
  intro path hPath
  induction path generalizing model key with
  | nil => exact ⟨Nat.zero_le _, .singleton _⟩
  | cons next others ih =>
      rcases next with ⟨target, rest⟩
      rcases List.isChain_cons_cons.mp hPath with
        ⟨hNext, hOthers⟩
      have hTarget :=
        hCatalog target (mem_models_of_nextHop? hNext)
      rcases ih hTarget hOthers with ⟨hLength, hShorter⟩
      rcases cutFirst?_of_plain hPlain hNext with ⟨head, hCut⟩
      have hCount := Text.separatorCount_of_cutFirst? hCut
      constructor
      · rw [List.length_cons, hCount]
        exact Nat.succ_le_succ hLength
      · exact List.isChain_cons_cons.mpr
          ⟨Text.cutFirst?_length hCut, hShorter⟩

theorem length_lt_restCount
    {text : String}
    {texts : List String}
    (hText : text ∈ texts) :
    text.length < restCount texts := by
  induction texts with
  | nil => cases hText
  | cons first others ih =>
      rw [restCount]
      rcases List.mem_cons.mp hText with rfl | hOther
      · omega
      · have hLess := ih hOther
        omega

/-
  The limit suffices for any model: after one hop the model
  is one of the catalog.
-/
theorem settles_stepLimit
    (hCatalog :
      ∀ other ∈ context.catalog.models, other.HasPlainSources)
    (value : Value)
    (model : Model)
    (key : String) :
    context.Settles value (context.stepLimit model key)
      model key := by
  apply settles_succ
  intro target rest hNext
  apply settles_of_plain hCatalog value
    (hCatalog target (mem_models_of_nextHop? hNext))
  rcases cutFirst?_of_nextHop? hNext with
    ⟨text, hText, head, hCut⟩
  have hMember :
      text ∈
        key ::
          (model :: context.catalog.models).flatMap
            sourceFields := by
    rw [List.flatMap_cons, ← List.cons_append]
    exact List.mem_append_left _ hText
  have hCount := Text.separatorCount_le_length rest
  have hShorter := Text.cutFirst?_length hCut
  have hLess := length_lt_restCount hMember
  rw [List.length_cons, Nat.succ_mul]
  omega

end Context

end Relmap

------------------------------------------------------------
-- Settled Hops
------------------------------------------------------------

namespace Relmap

namespace Catalog

variable {catalog : Catalog}

/- In a linked catalog plain fields back foreign keys. -/
theorem IsLinked.hasPlainSources
    (hLinked : catalog.IsLinked)
    (hNames : catalog.HasPlainNames) :
    ∀ model ∈ catalog.models, model.HasPlainSources := by
  intro model hModel source hSource
  rcases List.mem_filterMap.mp hSource with
    ⟨relation, hRelation, hBacking⟩
  have hFound :=
    hLinked.backed model hModel relation hRelation source
      hBacking
  rcases Option.isSome_iff_exists.mp hFound with
    ⟨field, hField⟩
  rcases Model.field?_eq_some hField with ⟨hMember, hName⟩
  rw [← hName]
  exact hNames.field model hModel field hMember

end Catalog

namespace Context

variable {context : Context}
variable {model target : Model}
variable {relation : Relation}
variable {key rest : String}

/-
  A key that hops is resolved as its rest is, behind the
  joins of the relation. Both are resolved with steps enough,
  so that one step more or less makes no difference.
-/
theorem resolveKey_of_step?
    (hPlain :
      ∀ other ∈ context.catalog.models,
        other.HasPlainSources)
    (hKnows : ¬ context.Knows model key)
    (hStep : model.step? key = some (relation, rest))
    (hTarget :
      context.catalog.model? relation.target = some target)
    (value : FilterValue) :
    context.resolveKey model key value =
      (do
        let joins ←
          context.catalog.relationJoins model relation
        let nested ← context.resolveKey target rest value
        return (Modifier.ofJoins joins).and nested) := by
  let near := context.stepLimit model key
  let far := context.stepLimit target rest
  have hNear :=
    (settles_stepLimit hPlain value.identity model key).stable
      (near + far + 1) (by omega)
  have hFar :=
    (settles_stepLimit hPlain value.identity target
      rest).stable (near + far) (by omega)
  rw [resolveKey, ← hNear,
    resolveWithin_of_step? hKnows hStep,
    Catalog.require_eq_ok_iff.mpr hTarget]
  simp only [bind, Except.bind, hFar]
  rfl

end Context

end Relmap

------------------------------------------------------------
-- Endless Resolutions
------------------------------------------------------------

namespace Relmap

open Except

namespace Context

variable {context : Context}
variable {model : Model}
variable {key : String}

/- A key that hops to itself is never resolved. -/
theorem resolveWithin_of_loop
    (hLoop : context.nextHop? model key = some (model, key))
    (value : Value)
    (steps : Nat) :
    context.resolveWithin value steps model key =
      .error (.endless key) := by
  induction steps with
  | zero => rfl
  | succ steps ih =>
      rcases resolveWithin_of_nextHop? hLoop value with
        ⟨joins, hResult⟩
      rw [hResult, ih]
      rfl

/-
  Nodes with two foreign keys to themselves, of which the
  second one is backed by the given field.
-/
private def nodes (source : String) : List Model :=
  [{ name := "Node"
     fields := [.keyOfType "id" (.named FieldType.intName)]
     relations := [
       .toOne "a" "Node",
       (Relation.toOne "in" "Node").withSourceField source] }]

/-
  The field may read as a key that hops along the first one
  and leaves the name of the second one.
-/
theorem exists_loop :
    ∃ (context : Context) (model : Model),
      Catalog.link (nodes "a__in") = .ok context.catalog ∧
        model ∈ context.catalog.models ∧
        context.nextHop? model "in" = some (model, "in") := by
  rcases Except.exists_of_any
      (show (Catalog.link (nodes "a__in")).toOption.any
          (fun catalog =>
            catalog.models.length = 1 ∧
              ∀ model ∈ catalog.models,
                ((ofCatalog catalog).nextHop? model "in").any
                  (fun next => next.2 = "in")) = true by
        decide +kernel) with
    ⟨catalog, hLink, hTest⟩
  rcases of_decide_eq_true hTest with ⟨hLength, hEach⟩
  rcases List.length_eq_one_iff.mp hLength with
    ⟨model, hModels⟩
  have hModel : model ∈ catalog.models := by simp [hModels]
  have hNode := hEach model hModel
  refine ⟨ofCatalog catalog, model, hLink, hModel, ?_⟩
  cases hNext : (ofCatalog catalog).nextHop? model "in" with
  | none => simp [hNext] at hNode
  | some next =>
      rcases next with ⟨target, rest⟩
      have hTarget := mem_models_of_nextHop? hNext
      have hRest : rest = "in" := by simpa [hNext] using hNode
      have hSame : target = model := by
        simpa [ofCatalog, hModels] using hTarget
      rw [hSame, hRest]

end Context

/-
  The resolver goes on by hops. If the fields that back the
  foreign keys of a catalog have plain names then the
  resolution of every tree ends for every model, and that of
  a key takes no more hops than it has separators, each of
  which leaves a shorter key. Otherwise the resolution of a
  key may go on forever, and that in a catalog that was
  linked.
-/
theorem FilterTree.ends_of_plain_sources :
    (∀ context : Context, context.ResolvesByHops) ∧
      (∀ context : Context,
        (∀ other ∈ context.catalog.models,
          other.HasPlainSources) →
        ∀ model : Model,
          (∀ tree : FilterTree,
              Lacks .endless (tree.resolve context model)) ∧
            (∀ key value,
              context.Settles value
                (context.stepLimit model key) model key) ∧
            (model.HasPlainSources →
              ∀ key,
                (∀ value,
                    context.Settles value
                      (Text.separatorCount key + 1)
                      model key) ∧
                  context.HopsAtMost (Text.separatorCount key)
                    model key)) ∧
      ∃ (models : List Model) (context : Context)
        (model : Model) (key : String),
        Catalog.link models = .ok context.catalog ∧
          model ∈ context.catalog.models ∧
          context.nextHop? model key = some (model, key) ∧
          ∀ value steps,
            context.resolveWithin value steps model key =
              .error (.endless key) := by
  refine ⟨Context.resolvesByHops, ?_, ?_⟩
  · intro context hCatalog model
    refine ⟨?_, ?_, ?_⟩
    · apply FilterTree.resolve_lacks
      intro key value
      exact (Context.settles_stepLimit hCatalog value.identity
        model key).ends
    · intro key value
      exact Context.settles_stepLimit hCatalog value model key
    · intro hPlain key
      constructor
      · intro value
        exact Context.settles_of_plain hCatalog value hPlain
          (Nat.lt_succ_self _)
      · exact Context.hopsAtMost_of_plain hCatalog hPlain
  · rcases Context.exists_loop with
      ⟨context, model, hLink, hModel, hLoop⟩
    exact ⟨_, context, model, "in", hLink, hModel, hLoop,
      Context.resolveWithin_of_loop hLoop⟩

/- With a plain field the nodes have no such key. -/
theorem FilterTree.ends_of_plain_sources_nodes :
    ∃ (context : Context) (model : Model),
      Catalog.link (Context.nodes "in_id") =
          .ok context.catalog ∧
        model ∈ context.catalog.models ∧
        (∀ tree : FilterTree,
          Lacks .endless (tree.resolve context model)) ∧
        ∀ value,
          context.Settles value 3 model "a__in__id" ∧
            context.HopsAtMost 2 model "a__in__id" := by
  rcases Except.exists_of_any
      (show (Catalog.link (Context.nodes "in_id")).toOption.any
          (fun catalog =>
            0 < catalog.models.length ∧
              ∀ model ∈ catalog.models,
                model.HasPlainSources) = true by
        decide +kernel) with
    ⟨catalog, hLink, hTest⟩
  rcases of_decide_eq_true hTest with ⟨hSome, hPlain⟩
  rcases List.length_pos_iff_exists_mem.mp hSome with
    ⟨model, hModel⟩
  have hCount : Text.separatorCount "a__in__id" = 2 := by
    decide +kernel
  have hEnds :=
    FilterTree.ends_of_plain_sources.2.1
      (Context.ofCatalog catalog) hPlain model
  have hKey := hEnds.2.2 (hPlain model hModel) "a__in__id"
  rw [hCount] at hKey
  exact ⟨Context.ofCatalog catalog, model, hLink, hModel,
    hEnds.1, fun value => ⟨hKey.1 value, hKey.2⟩⟩

end Relmap
