import Relmap.Proofs.Query.Attachment
import Relmap.Proofs.Query.Faults
import Relmap.Proofs.Query.Join

/-
  What linking leaves unchecked.

  A backward relation may be declared with a field that its
  target lacks. Such a gap is the only reason for which a
  relation of a linked catalog cannot be followed. Where
  there is none, queries have no faults of the configuration.

  Main declarations:
    * `Catalog.IsGap`
    * `PrefetchTree.IsGrown`
    * `Catalog.IsConfigured`
    * `Catalog.exists_fault_iff_isGap`
    * `Catalog.IsLinked.isConfigured`
    * `Catalog.isConfigured_of_link`
-/

------------------------------------------------------------
-- Gaps
------------------------------------------------------------

namespace Relmap

/-
  A relation is a gap if the model declares it as the other
  end of a foreign key, but its target has no field of the
  name that it states.
-/
structure Catalog.IsGap
    (models : List Model)
    (catalog : Catalog)
    (model : Model)
    (relation : Relation) : Prop where
  declared :
    ∃ original ∈ models,
      original.name = model.name ∧
        relation ∈ original.relations
  lacking :
    ∃ key target,
      relation.kind = .backward key ∧
        catalog.model? relation.target = some target ∧
        target.field? key.relationField = none

/-
  A tree is grown from a catalog if it starts as the empty
  tree of one of its models and is changed by calls only. The
  tree of an entry of a grown tree is grown as well.
-/
inductive PrefetchTree.IsGrown
    (catalog : Catalog) : PrefetchTree → Prop where
  | empty {model : Model}
      (hModel : model ∈ catalog.models) :
      IsGrown catalog (.ofModel model.name)
  | call {tree : PrefetchTree}
      (hTree : IsGrown catalog tree)
      (call : Attachment) :
      IsGrown catalog (tree.perform catalog call).left
  | nested {tree : PrefetchTree} {entry : PrefetchEntry}
      (hTree : IsGrown catalog tree)
      (hEntry : entry ∈ tree.entries) :
      IsGrown catalog entry.tree

open Except in
/-
  A catalog is configured if no query of it can fail with a
  fault of the configuration, whatever is asked for.
-/
structure Catalog.IsConfigured (catalog : Catalog) : Prop where
  filters :
    ∀ context : Context, context.catalog = catalog →
      ∀ model ∈ catalog.models, ∀ tree : FilterTree,
        Lacks .configuration (tree.resolve context model)
  computed :
    ∀ model ∈ catalog.models, ∀ computed : Computed,
      Lacks .configuration (computed.resolve catalog model)
  prefetch :
    ∀ tree : PrefetchTree, tree.IsGrown catalog →
      ∀ call : Attachment,
        Lacks .configuration (tree.perform catalog call).outcome

end Relmap

------------------------------------------------------------
-- Relations Without Joins
------------------------------------------------------------

namespace Relmap

namespace Catalog

variable {models : List Model}
variable {catalog : Catalog}
variable {model : Model}
variable {relation : Relation}

/- Linking adds no gaps. -/
theorem isGap_of_not_isFollowable
    (hLink : link models = .ok catalog)
    (hModel : model ∈ catalog.models)
    (hRelation : relation ∈ model.relations)
    (hFollow : ¬ catalog.IsFollowable relation) :
    IsGap models catalog model relation := by
  rcases isLinking_of_link hLink with ⟨linked, hLinking⟩
  have hLacking :=
    (isLinked_of_link hLink).exists_lacking hModel hRelation
      hFollow
  rcases hLacking with ⟨key, target, hKind, hTarget, hNone⟩
  refine ⟨?_, key, target, hKind, hTarget, hNone⟩
  rcases hLinking.backward hModel hRelation hKind with
    hDeclared | ⟨other, hOther, hField⟩
  · exact hDeclared
  · rw [hTarget] at hOther
    cases hOther
    rw [hNone] at hField
    cases hField

theorem IsGap.not_isFollowable
    (hGap : IsGap models catalog model relation) :
    ¬ catalog.IsFollowable relation := by
  rcases hGap.lacking with ⟨key, target, hKind, hTarget, hNone⟩
  intro hFollow
  rcases hFollow key hKind with ⟨other, hOther, hField⟩
  rw [hTarget] at hOther
  cases hOther
  rw [hNone] at hField
  cases hField

/- A relation cannot be followed exactly if it is a gap. -/
theorem exists_fault_iff_isGap
    (hLink : link models = .ok catalog)
    (hModel : model ∈ catalog.models)
    (hRelation : relation ∈ model.relations) :
    (∃ fault,
        catalog.relationJoins model relation =
          .error fault) ↔
      IsGap models catalog model relation := by
  constructor
  · rintro ⟨fault, hFault⟩
    apply isGap_of_not_isFollowable hLink hModel hRelation
    intro hFollow
    rcases
        (isLinked_of_link hLink).relationJoins_eq_ok hModel
          hRelation hFollow with
      ⟨target, joins, _, hJoins⟩
    rw [hFault] at hJoins
    cases hJoins
  · rintro ⟨_, key, target, hKind, hTarget, hNone⟩
    exact ⟨_, relationJoins_of_lacking hTarget hKind hNone⟩

/- Without gaps every relation can be followed. -/
theorem isNavigable_of_no_gap
    (hLink : link models = .ok catalog)
    (hGaps :
      ∀ model ∈ catalog.models,
        ∀ relation ∈ model.relations,
          ¬ IsGap models catalog model relation) :
    catalog.IsNavigable := by
  intro model hModel relation hRelation
  by_contra hFollow
  exact hGaps model hModel relation hRelation
    (isGap_of_not_isFollowable hLink hModel hRelation hFollow)

end Catalog

end Relmap

------------------------------------------------------------
-- Filters Of Configured Catalogs
------------------------------------------------------------

namespace Relmap

open Except

variable {catalog : Catalog}
variable {model : Model}

namespace Catalog

/- The models of a linked catalog have the key they need. -/
theorem IsLinked.keyColumn_lacks
    (hLinked : catalog.IsLinked)
    (hModel : model ∈ catalog.models) :
    Lacks .configuration model.keyColumn := by
  rcases Model.exists_keyColumn (hLinked.keyed model hModel)
    with ⟨column, hColumn⟩
  rw [hColumn]
  exact lacks_ok column

/- The relations lead to models. -/
theorem IsLinked.require_lacks
    (hLinked : catalog.IsLinked)
    (hModel : model ∈ catalog.models)
    {relation : Relation}
    (hRelation : relation ∈ model.relations) :
    Lacks .configuration (catalog.require relation.target) := by
  rcases hLinked.exists_target hModel hRelation with
    ⟨target, _, hTarget⟩
  rw [require_eq_ok_iff.mpr hTarget]
  exact lacks_ok target

/- And those of a navigable one lead there by joins. -/
theorem IsLinked.relationJoins_lacks
    (hLinked : catalog.IsLinked)
    (hNavigable : catalog.IsNavigable)
    (hModel : model ∈ catalog.models)
    {relation : Relation}
    (hRelation : relation ∈ model.relations) :
    Lacks .configuration
      (catalog.relationJoins model relation) := by
  rcases hLinked.relationJoins_eq_ok hModel hRelation
      (hNavigable model hModel relation hRelation) with
    ⟨target, joins, _, hJoins⟩
  rw [hJoins]
  exact lacks_ok joins

end Catalog

namespace Computed

theorem resolve_lacks_configuration
    (hLinked : catalog.IsLinked)
    (hNavigable : catalog.IsNavigable)
    (hModel : model ∈ catalog.models)
    (computed : Computed) :
    Lacks .configuration (computed.resolve catalog model) := by
  have hOperational :
      ErrorKind.configuration ≠ .operational := by decide
  have hTerm := fieldTerm_lacks hOperational model
  unfold resolve
  split
  · exact lacks_bind (hTerm _) fun _ _ => lacks_ok _
  · split
    · exact lacks_ok _
    · split
      · rename_i relation hFound
        have hRelation : relation ∈ model.relations := by
          unfold relationOf? at hFound
          split at hFound
          · cases hFound
          · exact (Model.relation?_eq_some hFound).1
        apply lacks_bind (hLinked.require_lacks hModel hRelation)
        intro target hTarget
        have hMember :=
          (Catalog.model?_eq_some
            (Catalog.require_eq_ok_iff.mp hTarget)).1
        apply lacks_bind
          (hLinked.relationJoins_lacks hNavigable hModel
            hRelation)
        intro joins _
        exact lacks_bind (hLinked.keyColumn_lacks hMember)
          fun _ _ => lacks_ok _
      · exact lacks_bind (hTerm _) fun _ _ => lacks_ok _

end Computed

namespace Context

variable {context : Context}

theorem resolveCustom_lacks_configuration
    (hLinked : context.catalog.IsLinked)
    (hNavigable : context.catalog.IsNavigable)
    (hModel : model ∈ context.catalog.models)
    (filter : CustomFilter)
    (value : Value) :
    Lacks .configuration
      (context.resolveCustom model filter value) := by
  unfold resolveCustom
  split
  · exact lacks_error (by simp [Error.kind])
  · rename_i computed _
    apply lacks_bind
      (computed.resolve_lacks_configuration hLinked hNavigable
        hModel)
    intro resolved _
    apply lacks_bind
      (Lookup.criterion_lacks (by decide) _ _ _)
    intro criterion _
    split
    · exact lacks_ok _
    · exact lacks_ok _

/- A key that names nothing is no fault of the catalog. -/
theorem directTarget_lacks
    {kind : ErrorKind}
    (hKind : kind ≠ .field)
    (model : Model)
    (key : String)
    (value : Value) :
    Lacks kind (context.directTarget model key value) := by
  unfold directTarget
  dsimp only
  split
  · exact lacks_ok _
  · split
    · exact lacks_ok _
    · exact lacks_error hKind.symm

theorem resolveDirect_lacks_configuration
    (hLinked : context.catalog.IsLinked)
    (hModel : model ∈ context.catalog.models)
    (key : String)
    (value : Value) :
    Lacks .configuration
      (context.resolveDirect model key value) := by
  apply lacks_bind
    (directTarget_lacks (by decide) model key value)
  intro pair _
  apply lacks_bind
  · unfold targetJoins
    split
    · exact lacks_ok _
    · exact lacks_bind (hLinked.keyColumn_lacks hModel)
        fun _ _ => lacks_ok _
  · intro joins _
    exact lacks_bind
      (Lookup.criterion_lacks (by decide) _ _ _)
      fun _ _ => lacks_ok _

theorem backingKey_lacks
    {kind : ErrorKind}
    (hKind : kind ≠ .field)
    (model : Model)
    (key : String) :
    Lacks kind (context.backingKey model key) := by
  unfold backingKey
  split
  · exact lacks_ok _
  · split
    · exact lacks_ok _
    · exact lacks_error hKind.symm

/- A hop leads along a relation of the model. -/
theorem mem_relations_of_hop?
    {key rest : String}
    {relation : Relation}
    (hHop : context.hop? model key = some (relation, rest)) :
    relation ∈ model.relations := by
  unfold hop? at hHop
  split at hHop
  · cases hHop
  · rcases Option.bind_eq_some_iff.mp hHop with
      ⟨⟨head, tail⟩, _, hFound⟩
    rcases Option.bind_eq_some_iff.mp hFound with
      ⟨found, hRelation, hSame⟩
    cases hSame
    exact (Model.relation?_eq_some hRelation).1

/-
  By induction on the steps: every hop leads to a model of
  the catalog again.
-/
theorem resolveWithin_lacks_configuration
    (hLinked : context.catalog.IsLinked)
    (hNavigable : context.catalog.IsNavigable)
    (hModel : model ∈ context.catalog.models)
    (value : Value)
    (steps : Nat)
    (key : String) :
    Lacks .configuration
      (context.resolveWithin value steps model key) := by
  induction steps generalizing model key with
  | zero => exact lacks_error (by simp [Error.kind])
  | succ steps ih =>
      unfold resolveWithin
      apply lacks_bind (backingKey_lacks (by decide) model key)
      intro backing _
      split
      · exact resolveCustom_lacks_configuration hLinked
          hNavigable hModel _ value
      · split
        · exact resolveDirect_lacks_configuration hLinked
            hModel backing value
        · rename_i relation rest hHop
          have hRelation := mem_relations_of_hop? hHop
          apply lacks_bind
            (hLinked.require_lacks hModel hRelation)
          intro target hTarget
          have hMember :=
            (Catalog.model?_eq_some
              (Catalog.require_eq_ok_iff.mp hTarget)).1
          apply lacks_bind
            (hLinked.relationJoins_lacks hNavigable hModel
              hRelation)
          intro joins _
          exact lacks_bind (ih hMember rest)
            fun _ _ => lacks_ok _

end Context

end Relmap

------------------------------------------------------------
-- Prefetch Trees Of Linked Catalogs
------------------------------------------------------------

namespace Relmap

open Except

variable {catalog : Catalog}

namespace Catalog

/- By induction on the path: relations lead to models. -/
theorem IsLinked.follow_lacks
    (hLinked : catalog.IsLinked)
    {model : Model}
    (hModel : model ∈ catalog.models)
    (path : List String) :
    Lacks .configuration (catalog.follow model path) := by
  induction path generalizing model with
  | nil => exact lacks_ok model
  | cons segment rest ih =>
      unfold follow
      split
      · exact lacks_error (by simp [Error.kind])
      · rename_i relation hRelation
        apply lacks_bind
          (hLinked.require_lacks hModel
            (Model.relation?_eq_some hRelation).1)
        intro target hTarget
        exact ih (model?_eq_some
          (require_eq_ok_iff.mp hTarget)).1

theorem IsLinked.reach_lacks
    (hLinked : catalog.IsLinked)
    {start : String}
    (hStart : (catalog.model? start).isSome = true)
    (path : String) :
    Lacks .configuration (catalog.reach start path) := by
  rcases Option.isSome_iff_exists.mp hStart with
    ⟨model, hModel⟩
  unfold reach
  rw [require_eq_ok_iff.mpr hModel]
  apply lacks_bind (lacks_ok model)
  intro found hFound
  cases hFound
  exact lacks_bind
    (hLinked.follow_lacks (model?_eq_some hModel).1 _)
    fun _ _ => lacks_ok _

end Catalog

namespace PrefetchTree

/-
  A grown tree says what was bound in it, or what was bound
  at and below one of the entries of another tree.
-/
theorem IsGrown.reflects
    (hLinked : catalog.IsLinked)
    {tree : PrefetchTree}
    (hTree : tree.IsGrown catalog) :
    ∃ root base bindings,
      catalog.Leads root base tree.model ∧
        Reflects catalog root bindings base tree.entries := by
  induction hTree with
  | @empty model hModel =>
      refine ⟨model.name, [], [], .here ?_, reflects_nil ?_⟩
      · rw [Catalog.model?_of_mem hLinked.names hModel]
        rfl
      · rintro ⟨path, hPath, _⟩
        cases hPath
  | @call tree _ call ih =>
      rcases ih with ⟨root, base, bindings, hBase, hEntries⟩
      by_cases hPath :
          ∃ target,
            catalog.Leads tree.model (Text.split call.path)
                target ∧
              (call.request target).model = target
      · rcases hPath with ⟨target, hPath, hRequest⟩
        rcases hEntries.insert hBase hPath
            (call.request target) with
          ⟨results, hResults, hReflects⟩
        rw [perform_of_leads hPath hRequest, hResults]
        exact ⟨root, base, _, hBase, hReflects⟩
      · rcases perform_of_not_leads
            (fun target hLeads hRequest =>
              hPath ⟨target, hLeads, hRequest⟩) with
          ⟨fault, hFault⟩
        rw [hFault]
        exact ⟨root, base, bindings, hBase, hEntries⟩
  | nested _ hEntry ih =>
      rcases ih with ⟨root, base, bindings, _, hEntries⟩
      have hFits := hEntries.fits hEntry
      exact ⟨root, _, bindings, hFits.leads, hFits.nested⟩

/- A call checks its path, and then binds without fail. -/
theorem IsGrown.perform_lacks
    (hLinked : catalog.IsLinked)
    {tree : PrefetchTree}
    (hTree : tree.IsGrown catalog)
    (call : Attachment) :
    Lacks .configuration (tree.perform catalog call).outcome := by
  rcases hTree.reflects hLinked with
    ⟨root, base, bindings, hBase, hEntries⟩
  have hStart := hBase.isSome_target
  unfold perform
  cases hReach : catalog.reach tree.model call.path with
  | error fault =>
      have hFault := hLinked.reach_lacks hStart call.path
      rw [hReach] at hFault
      exact lacks_error (hFault fault rfl)
  | ok target =>
      have hPath := Catalog.reach_eq_ok_iff.mp hReach
      have hInsert (spec : LoadSpec) :
          Lacks .configuration
            (insert catalog spec call.path tree).outcome := by
        rcases hEntries.insert hBase hPath spec with
          ⟨results, hResults, _⟩
        rw [hResults]
        exact lacks_ok ()
      cases call.spec? with
      | none => exact hInsert ⟨target, none⟩
      | some spec =>
          dsimp only
          split
          · exact hInsert spec
          · exact lacks_error (by simp [Error.kind])

end PrefetchTree

end Relmap

------------------------------------------------------------
-- Configured Catalogs
------------------------------------------------------------

namespace Relmap

namespace Catalog

variable {models : List Model}
variable {catalog : Catalog}

/- Catalogs whose relations can be followed are configured. -/
theorem IsLinked.isConfigured
    (hLinked : catalog.IsLinked)
    (hNavigable : catalog.IsNavigable) :
    catalog.IsConfigured where
  filters := by
    rintro context rfl model hModel tree
    apply FilterTree.resolve_lacks
    intro key value
    exact context.resolveWithin_lacks_configuration hLinked
      hNavigable hModel value.identity _ key
  computed := fun _ hModel computed =>
    computed.resolve_lacks_configuration hLinked hNavigable
      hModel
  prefetch := fun _ hTree call => hTree.perform_lacks hLinked call

/-
  In a catalog that was linked a relation cannot be followed
  exactly if it is a gap, and without gaps the catalog is
  configured.
-/
theorem isConfigured_of_link
    (hLink : link models = .ok catalog) :
    (∀ model ∈ catalog.models,
        ∀ relation ∈ model.relations,
          (∃ fault,
              catalog.relationJoins model relation =
                .error fault) ↔
            IsGap models catalog model relation) ∧
      ((∀ model ∈ catalog.models,
          ∀ relation ∈ model.relations,
            ¬ IsGap models catalog model relation) →
        catalog.IsConfigured) := by
  constructor
  · intro model hModel relation hRelation
    exact exists_fault_iff_isGap hLink hModel hRelation
  · intro hGaps
    exact (isLinked_of_link hLink).isConfigured
      (isNavigable_of_no_gap hLink hGaps)

/-
  Volumes with an author, who states the field that the
  volumes are found by.
-/
private def volumes (field : String) : List Model :=
  [{ name := "Author"
     fields := [.keyOfType "id" (.named FieldType.intName)]
     relations := [.backward "volumes" "Volume" field] },
    { name := "Volume"
      fields := [.keyOfType "id" (.named FieldType.intName)]
      relations := [.toOne "author" "Author"] }]

/- The field of the foreign key will do, and no other. -/
theorem isConfigured_of_link_volumes :
    (∃ catalog,
        link (volumes "author_id") = .ok catalog ∧
          catalog.IsConfigured) ∧
      ∃ catalog model relation fault,
        link (volumes "writer_id") = .ok catalog ∧
          model ∈ catalog.models ∧
          relation ∈ model.relations ∧
          catalog.relationJoins model relation =
            .error fault ∧
          IsGap (volumes "writer_id") catalog model
            relation := by
  constructor
  · rcases Except.exists_of_any
        (show (link (volumes "author_id")).toOption.any
            (fun catalog =>
              ∀ model ∈ catalog.models,
                ∀ relation ∈ model.relations,
                  catalog.IsFollowable relation) = true by
          decide +kernel) with
      ⟨catalog, hLink, hFollow⟩
    refine ⟨catalog, hLink,
      (isConfigured_of_link hLink).2 ?_⟩
    intro model hModel relation hRelation hGap
    exact hGap.not_isFollowable
      (of_decide_eq_true hFollow model hModel relation
        hRelation)
  · rcases Except.exists_of_any
        (show (link (volumes "writer_id")).toOption.any
            (fun catalog =>
              ∃ model ∈ catalog.models,
                ∃ relation ∈ model.relations,
                  (catalog.relationJoins model
                    relation).toOption.isSome = false) =
              true by
          decide +kernel) with
      ⟨catalog, hLink, hFault⟩
    rcases of_decide_eq_true hFault with
      ⟨model, hModel, relation, hRelation, hNone⟩
    cases hJoins : catalog.relationJoins model relation with
    | ok joins =>
        rw [hJoins] at hNone
        cases hNone
    | error fault =>
        exact ⟨catalog, model, relation, fault, hLink, hModel,
          hRelation, hJoins,
          ((isConfigured_of_link hLink).1 model hModel relation
            hRelation).mp ⟨fault, hJoins⟩⟩

end Catalog

end Relmap
