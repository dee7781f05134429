import Mathlib.Data.List.Forall2
import Relmap.Proofs.Catalog.Basic
import Relmap.Proofs.Outcome
import Relmap.Proofs.Text.Cut
import Relmap.Query.Prefetch

/-
  What attaching requests does to a prefetch tree.

  The entries of a tree are compared with the requests that
  were bound so far, in the order of binding. A path that
  leads to a model is followed through such a tree without
  fail, and binds one more request. Any other call leaves
  the tree alone.

  Main declarations:
    * `Catalog.Leads`
    * `Catalog.reach_eq_ok_iff`
    * `PrefetchTree.Reflects`
    * `PrefetchTree.Reflects.insert`
    * `PrefetchTree.Reflects.perform`
    * `PrefetchTree.Reflects.run`
-/

------------------------------------------------------------
-- Paths Of Relations
------------------------------------------------------------

namespace Relmap

namespace Catalog

/- Relations with given names lead from a model to another. -/
inductive Leads (catalog : Catalog) :
    String → List String → String → Prop where
  | here
      {name : String}
      (hModel : (catalog.model? name).isSome = true) :
      Leads catalog name [] name
  | step
      {name segment : String}
      {model : Model}
      {relation : Relation}
      {rest : List String}
      {target : String}
      (hModel : catalog.model? name = some model)
      (hRelation : model.relation? segment = some relation)
      (hRest : Leads catalog relation.target rest target) :
      Leads catalog name (segment :: rest) target

variable {catalog : Catalog}
variable {name target : String}
variable {path : List String}

/- What leads somewhere starts at a model. -/
theorem Leads.isSome_start
    (hPath : catalog.Leads name path target) :
    (catalog.model? name).isSome = true := by
  cases hPath with
  | here hModel => exact hModel
  | step hModel => simp [hModel]

/- It also ends at one. -/
theorem Leads.isSome_target
    (hPath : catalog.Leads name path target) :
    (catalog.model? target).isSome = true := by
  induction hPath with
  | here hModel => exact hModel
  | step _ _ _ ih => exact ih

/- A path leads to one model only. -/
theorem Leads.unique
    {other : String}
    (hPath : catalog.Leads name path target)
    (hOther : catalog.Leads name path other) :
    target = other := by
  induction hPath with
  | here => cases hOther with | here => rfl
  | step hModel hRelation _ ih =>
      cases hOther with
      | step hSame hFound hRest =>
          rw [hModel] at hSame
          cases hSame
          rw [hRelation] at hFound
          cases hFound
          exact ih hRest

/- A path may be followed by one more relation. -/
theorem Leads.concat
    (hPath : catalog.Leads name path target)
    {model : Model}
    (hModel : catalog.model? target = some model)
    {segment : String}
    {relation : Relation}
    (hRelation : model.relation? segment = some relation)
    (hTarget :
      (catalog.model? relation.target).isSome = true) :
    catalog.Leads name (path ++ [segment]) relation.target := by
  induction hPath with
  | here => exact .step hModel hRelation (.here hTarget)
  | step hFirst hFound _ ih =>
      exact .step hFirst hFound (ih hModel)

/- Following relations finds where they lead. -/
theorem follow_eq_ok_iff
    {model : Model}
    (hModel : catalog.model? name = some model) :
    (∃ found,
        catalog.follow model path = .ok found ∧
          found.name = target) ↔
      catalog.Leads name path target := by
  induction path generalizing name model with
  | nil =>
      have hName := (model?_eq_some hModel).2
      constructor
      · rintro ⟨found, hFound, rfl⟩
        cases hFound
        rw [hName]
        exact .here (by simp [hModel])
      · intro hPath
        cases hPath
        exact ⟨model, rfl, hName⟩
  | cons segment rest ih =>
      unfold follow
      constructor
      · rintro ⟨found, hFound, hTarget⟩
        split at hFound
        · cases hFound
        · rename_i relation hRelation
          rcases Except.bind_eq_ok_iff.mp hFound with
            ⟨next, hNext, hRest⟩
          exact .step hModel hRelation
            ((ih (require_eq_ok_iff.mp hNext)).mp
              ⟨found, hRest, hTarget⟩)
      · intro hPath
        cases hPath with
        | step hSame hRelation hRest =>
            rw [hModel] at hSame
            cases hSame
            rcases Option.isSome_iff_exists.mp
                hRest.isSome_start with
              ⟨next, hNext⟩
            rcases (ih hNext).mpr hRest with
              ⟨found, hFound, hTarget⟩
            refine ⟨found, ?_, hTarget⟩
            simp only [hRelation]
            exact Except.bind_eq_ok_iff.mpr
              ⟨next, require_eq_ok_iff.mpr hNext, hFound⟩

/- A path is accepted exactly if it leads somewhere. -/
theorem reach_eq_ok_iff {path : String} :
    catalog.reach name path = .ok target ↔
      catalog.Leads name (Text.split path) target := by
  simp only [reach, Except.bind_eq_ok_iff, require_eq_ok_iff]
  constructor
  · rintro ⟨model, hModel, found, hFound, hTarget⟩
    cases hTarget
    exact (follow_eq_ok_iff hModel).mp ⟨found, hFound, rfl⟩
  · intro hPath
    rcases Option.isSome_iff_exists.mp hPath.isSome_start with
      ⟨model, hModel⟩
    rcases (follow_eq_ok_iff hModel).mpr hPath with
      ⟨found, hFound, rfl⟩
    exact ⟨model, hModel, found, hFound, rfl⟩

end Catalog

end Relmap

------------------------------------------------------------
-- Changed Entries
------------------------------------------------------------

namespace Relmap

namespace PrefetchEntry

variable {relation model : String}
variable {change : PrefetchEntry → Attempt PrefetchEntry}

/- An entry that is missing is added at the end. -/
theorem update_of_not_mem
    {entries : List PrefetchEntry}
    (hMissing :
      relation ∉ entries.map PrefetchEntry.relation) :
    update relation model change entries =
      (change (bare relation model)).map
        fun entry => entries ++ [entry] := by
  induction entries with
  | nil => rfl
  | cons first rest ih =>
      rw [List.map_cons, List.mem_cons, not_or] at hMissing
      unfold update
      rw [if_neg (Ne.symm hMissing.1), ih hMissing.2]
      rfl

/- An entry that is there is changed where it stands. -/
theorem update_append
    {front rest : List PrefetchEntry}
    {entry : PrefetchEntry}
    (hFront : relation ∉ front.map PrefetchEntry.relation)
    (hEntry : entry.relation = relation) :
    update relation model change (front ++ entry :: rest) =
      (change entry).map
        fun changed => front ++ changed :: rest := by
  induction front with
  | nil =>
      rw [List.nil_append, update, if_pos hEntry]
      rfl
  | cons first front ih =>
      rw [List.map_cons, List.mem_cons, not_or] at hFront
      rw [List.cons_append, update, if_neg (Ne.symm hFront.1),
        ih hFront.2]
      rfl

end PrefetchEntry

end Relmap

------------------------------------------------------------
-- Bound Requests
------------------------------------------------------------

namespace Relmap

/- The segments of a path and the request bound there. -/
abbrev Binding := List String × LoadSpec

namespace Binding

/- Some path is the given one or continues it. -/
def Through
    (paths : List (List String))
    (path : List String) : Prop :=
  ∃ other ∈ paths, path <+: other

/-
  At some time there was a path through the first one and
  none through the second one.
-/
def Earlier
    (paths : List (List String))
    (first second : List String) : Prop :=
  ∃ before,
    before <+: paths ∧
      Through before first ∧ ¬ Through before second

/- The request that was bound last at a path. -/
def last?
    (bindings : List Binding)
    (path : List String) : Option LoadSpec :=
  (bindings.reverse.find? fun binding =>
    binding.1 = path).map Prod.snd

variable {paths : List (List String)}
variable {path added : List String}

theorem through_concat :
    Through (paths ++ [added]) path ↔
      Through paths path ∨ path <+: added := by
  simp only [Through, List.mem_append, List.mem_singleton]
  constructor
  · rintro ⟨other, hOther | rfl, hPrefix⟩
    · exact .inl ⟨other, hOther, hPrefix⟩
    · exact .inr hPrefix
  · rintro (⟨other, hOther, hPrefix⟩ | hPrefix)
    · exact ⟨other, .inl hOther, hPrefix⟩
    · exact ⟨added, .inr rfl, hPrefix⟩

/- A path below another one is only passed with that. -/
theorem Through.of_append
    {rest : List String}
    (hThrough : Through paths (path ++ rest)) :
    Through paths path := by
  rcases hThrough with ⟨other, hOther, hPrefix⟩
  exact ⟨other, hOther,
    (List.prefix_append path rest).trans hPrefix⟩

/- What came earlier has done so ever after. -/
theorem Earlier.concat
    {first second : List String}
    (hEarlier : Earlier paths first second)
    (added : List String) :
    Earlier (paths ++ [added]) first second := by
  rcases hEarlier with ⟨before, hBefore, hFirst, hSecond⟩
  exact ⟨before, hBefore.trans (List.prefix_append _ _),
    hFirst, hSecond⟩

variable {bindings : List Binding}

theorem last?_concat
    (binding : Binding)
    (path : List String) :
    last? (bindings ++ [binding]) path =
      if binding.1 = path then some binding.2
      else last? bindings path := by
  unfold last?
  rw [List.reverse_concat, List.find?_cons]
  split
  · rename_i hSame
    rw [if_pos (by simpa using hSame)]
    rfl
  · rename_i hOther
    rw [if_neg (by simpa using hOther)]

/- A request elsewhere is not the last one at a path. -/
theorem last?_concat_of_not_below
    {binding : Binding}
    (hElsewhere : ¬ path <+: binding.1) :
    last? (bindings ++ [binding]) path =
      last? bindings path := by
  rw [last?_concat, if_neg]
  rintro rfl
  exact hElsewhere (List.prefix_refl _)

/- A request is bound last wherever one is bound. -/
theorem last?_isSome_iff :
    (last? bindings path).isSome = true ↔
      path ∈ bindings.map Prod.fst := by
  simp [last?]

end Binding

end Relmap

------------------------------------------------------------
-- Entries And Requests
------------------------------------------------------------

namespace Relmap

namespace PrefetchTree

open Binding

/-
  Entries at a path below a model are what the requests say
  that were bound so far: the relations that some path goes
  on with, each in its place, with the model that it leads
  to and the request that was bound last.
-/
inductive Reflects
    (catalog : Catalog)
    (root : String)
    (bindings : List Binding) :
    List String → List PrefetchEntry → Prop where
  | intro
      {base : List String}
      {entries : List PrefetchEntry}
      (entered :
        ∀ relation,
          relation ∈ entries.map PrefetchEntry.relation ↔
            Through (bindings.map Prod.fst)
              (base ++ [relation]))
      (ordered :
        (entries.map PrefetchEntry.relation).Pairwise
          fun first second =>
            first ≠ second ∧
              Earlier (bindings.map Prod.fst)
                (base ++ [first]) (base ++ [second]))
      (leads :
        ∀ entry ∈ entries,
          catalog.Leads root (base ++ [entry.relation])
            entry.model)
      (terminal :
        ∀ entry ∈ entries,
          entry.terminal =
            last? bindings (base ++ [entry.relation]))
      (nested :
        ∀ entry ∈ entries,
          Reflects catalog root bindings
            (base ++ [entry.relation]) entry.nested) :
      Reflects catalog root bindings base entries

/- The same of one entry. -/
structure Fits
    (catalog : Catalog)
    (root : String)
    (bindings : List Binding)
    (base : List String)
    (entry : PrefetchEntry) : Prop where
  leads :
    catalog.Leads root (base ++ [entry.relation]) entry.model
  terminal :
    entry.terminal = last? bindings (base ++ [entry.relation])
  nested :
    Reflects catalog root bindings (base ++ [entry.relation])
      entry.nested

variable {catalog : Catalog}
variable {root : String}
variable {bindings : List Binding}
variable {base : List String}
variable {entries : List PrefetchEntry}
variable {entry : PrefetchEntry}

theorem Reflects.entered
    (hEntries :
      Reflects catalog root bindings base entries)
    (relation : String) :
    relation ∈ entries.map PrefetchEntry.relation ↔
      Through (bindings.map Prod.fst) (base ++ [relation]) := by
  cases hEntries with | intro entered => exact entered relation

theorem Reflects.ordered
    (hEntries :
      Reflects catalog root bindings base entries) :
    (entries.map PrefetchEntry.relation).Pairwise
      fun first second =>
        first ≠ second ∧
          Earlier (bindings.map Prod.fst)
            (base ++ [first]) (base ++ [second]) := by
  cases hEntries with | intro _ ordered => exact ordered

theorem Reflects.fits
    (hEntries :
      Reflects catalog root bindings base entries)
    (hMember : entry ∈ entries) :
    Fits catalog root bindings base entry := by
  cases hEntries with
  | intro _ _ leads terminal nested =>
      exact ⟨leads entry hMember, terminal entry hMember,
        nested entry hMember⟩

/- Entries that fit and stand in their order. -/
theorem Reflects.of_fits
    (entered :
      ∀ relation,
        relation ∈ entries.map PrefetchEntry.relation ↔
          Through (bindings.map Prod.fst) (base ++ [relation]))
    (ordered :
      (entries.map PrefetchEntry.relation).Pairwise
        fun first second =>
          first ≠ second ∧
            Earlier (bindings.map Prod.fst)
              (base ++ [first]) (base ++ [second]))
    (fits :
      ∀ entry ∈ entries,
        Fits catalog root bindings base entry) :
    Reflects catalog root bindings base entries :=
  .intro entered ordered
    (fun entry hMember => (fits entry hMember).leads)
    (fun entry hMember => (fits entry hMember).terminal)
    (fun entry hMember => (fits entry hMember).nested)

/- There is nothing below a path that none goes through. -/
theorem reflects_nil
    (hNone : ¬ Through (bindings.map Prod.fst) base) :
    Reflects catalog root bindings base [] := by
  apply Reflects.of_fits
  · intro relation
    have hBelow :
        ¬ Through (bindings.map Prod.fst)
          (base ++ [relation]) :=
      fun hThrough => hNone hThrough.of_append
    simpa using hBelow
  · exact .nil
  · intro entry hMember
    cases hMember

variable {path : List String}
variable {spec : LoadSpec}

/-
  A request leaves entries what they are if its path does not
  go on with a relation from where they are.
-/
theorem Reflects.frame
    (hEntries :
      Reflects catalog root bindings base entries)
    (hBelow : ∀ relation, ¬ base ++ [relation] <+: path) :
    Reflects catalog root (bindings ++ [(path, spec)]) base
      entries := by
  induction hEntries with
  | @intro base entries entered ordered leads terminal nested
      ih =>
      refine .intro ?_ ?_ leads ?_ ?_
      · intro relation
        simp only [List.map_append, List.map_cons,
          List.map_nil, through_concat, entered]
        simp [hBelow relation]
      · simp only [List.map_append, List.map_cons,
          List.map_nil]
        exact ordered.imp fun hOrder =>
          ⟨hOrder.1, hOrder.2.concat _⟩
      · intro entry hMember
        rw [last?_concat_of_not_below
          (hBelow entry.relation)]
        exact terminal entry hMember
      · intro entry hMember
        refine ih entry hMember fun relation hPrefix => ?_
        exact hBelow entry.relation
          ((List.prefix_append _ _).trans hPrefix)

theorem Fits.frame
    (hEntry : Fits catalog root bindings base entry)
    (hElsewhere : ¬ base ++ [entry.relation] <+: path) :
    Fits catalog root (bindings ++ [(path, spec)]) base
      entry := by
  refine ⟨hEntry.leads, ?_, hEntry.nested.frame ?_⟩
  · rw [last?_concat_of_not_below hElsewhere]
    exact hEntry.terminal
  · intro relation hPrefix
    exact hElsewhere
      ((List.prefix_append _ _).trans hPrefix)

/- A missing entry fits without requests. -/
theorem fits_bare
    {relation target : String}
    (hTarget :
      catalog.Leads root (base ++ [relation]) target)
    (hNone :
      ¬ Through (bindings.map Prod.fst)
        (base ++ [relation])) :
    Fits catalog root bindings base
      (.bare relation target) := by
  refine ⟨hTarget, ?_, reflects_nil hNone⟩
  cases hLast : last? bindings (base ++ [relation]) with
  | none => exact hLast.symm
  | some spec =>
      have hBound :=
        last?_isSome_iff.mp (Option.isSome_of_eq_some hLast)
      exact absurd ⟨_, hBound, List.prefix_refl _⟩ hNone

end PrefetchTree

end Relmap

------------------------------------------------------------
-- One Attachment
------------------------------------------------------------

namespace Relmap

namespace PrefetchTree

open Binding

variable {catalog : Catalog}
variable {root : String}
variable {bindings : List Binding}
variable {base : List String}
variable {entries : List PrefetchEntry}

variable {relation : String}
variable {rest : List String}
variable {spec : LoadSpec}

/- A bound path passes one relation below its beginning. -/
theorem through_bound_iff {other : String} :
    Through
        ((bindings ++
          [(base ++ relation :: rest, spec)]).map Prod.fst)
        (base ++ [other]) ↔
      Through (bindings.map Prod.fst) (base ++ [other]) ∨
        other = relation := by
  rw [List.map_append, List.map_singleton, through_concat,
    List.prefix_append_right_inj, List.cons_prefix_cons]
  simp

/- The entries of other relations fit as before. -/
theorem Reflects.fits_of_ne
    (hEntries :
      Reflects catalog root bindings base entries)
    {entry : PrefetchEntry}
    (hMember : entry ∈ entries)
    (hOther : entry.relation ≠ relation) :
    Fits catalog root
      (bindings ++ [(base ++ relation :: rest, spec)]) base
      entry := by
  apply (hEntries.fits hMember).frame
  rw [List.prefix_append_right_inj, List.cons_prefix_cons]
  exact fun hPrefix => hOther hPrefix.1

/- The entries stand in their order as before. -/
theorem Reflects.ordered_concat
    (hEntries :
      Reflects catalog root bindings base entries)
    (binding : Binding) :
    (entries.map PrefetchEntry.relation).Pairwise
      fun first second =>
        first ≠ second ∧
          Earlier ((bindings ++ [binding]).map Prod.fst)
            (base ++ [first]) (base ++ [second]) := by
  rw [List.map_append, List.map_singleton]
  exact hEntries.ordered.imp fun hOrder =>
    ⟨hOrder.1, hOrder.2.concat binding.1⟩

/- A request may be bound in an entry that is there. -/
theorem Reflects.replace
    {front back : List PrefetchEntry}
    {entry changed : PrefetchEntry}
    (hEntries :
      Reflects catalog root bindings base
        (front ++ entry :: back))
    (hEntry : entry.relation = relation)
    (hSame : changed.relation = relation)
    (hFits :
      Fits catalog root
        (bindings ++ [(base ++ relation :: rest, spec)]) base
        changed) :
    Reflects catalog root
        (bindings ++ [(base ++ relation :: rest, spec)]) base
        (front ++ changed :: back) ∧
      relation ∉ front.map PrefetchEntry.relation := by
  have hNames :
      (front ++ changed :: back).map PrefetchEntry.relation =
        (front ++ entry :: back).map
          PrefetchEntry.relation := by
    simp [hSame, hEntry]
  have hDistinct := hEntries.ordered.imp And.left
  rw [List.map_append, List.map_cons, hEntry,
    List.pairwise_append, List.pairwise_cons] at hDistinct
  rcases hDistinct with ⟨_, ⟨hBack, _⟩, hFront⟩
  refine ⟨.of_fits ?_ ?_ ?_, ?_⟩
  · intro other
    rw [hNames, through_bound_iff, ← hEntries.entered]
    constructor
    · exact .inl
    · rintro (hOther | rfl)
      · exact hOther
      · simp [hEntry]
  · rw [hNames]
    exact hEntries.ordered_concat _
  · intro other hOther
    rcases List.mem_append.mp hOther with hOther | hOther
    · apply hEntries.fits_of_ne
        (List.mem_append_left _ hOther)
      exact hFront _ (List.mem_map_of_mem hOther) _
        List.mem_cons_self
    · rcases List.mem_cons.mp hOther with rfl | hOther
      · exact hFits
      · apply hEntries.fits_of_ne
          (List.mem_append_right _
            (List.mem_cons_of_mem _ hOther))
        exact (hBack _ (List.mem_map_of_mem hOther)).symm
  · intro hMember
    exact hFront _ hMember _ List.mem_cons_self rfl

/- A request may be bound in an entry that is added. -/
theorem Reflects.add
    {added : PrefetchEntry}
    (hEntries :
      Reflects catalog root bindings base entries)
    (hMissing :
      relation ∉ entries.map PrefetchEntry.relation)
    (hAdded : added.relation = relation)
    (hFits :
      Fits catalog root
        (bindings ++ [(base ++ relation :: rest, spec)]) base
        added) :
    Reflects catalog root
      (bindings ++ [(base ++ relation :: rest, spec)]) base
      (entries ++ [added]) := by
  have hNames :
      (entries ++ [added]).map PrefetchEntry.relation =
        entries.map PrefetchEntry.relation ++ [relation] := by
    simp [hAdded]
  refine .of_fits ?_ ?_ ?_
  · intro other
    rw [hNames, through_bound_iff, ← hEntries.entered,
      List.mem_append, List.mem_singleton]
  · rw [hNames, List.pairwise_append]
    refine ⟨hEntries.ordered_concat _,
      List.pairwise_singleton _ _, ?_⟩
    intro first hFirst second hSecond
    rw [List.mem_singleton] at hSecond
    subst hSecond
    refine ⟨fun hEqual => hMissing (hEqual ▸ hFirst),
      bindings.map Prod.fst, ?_,
      (hEntries.entered first).mp hFirst,
      mt (hEntries.entered second).mpr hMissing⟩
    rw [List.map_append]
    exact List.prefix_append _ _
  · intro other hOther
    rcases List.mem_append.mp hOther with hOther | hOther
    · apply hEntries.fits_of_ne hOther
      intro hEqual
      exact hMissing (hEqual ▸ List.mem_map_of_mem hOther)
    · rw [List.mem_singleton] at hOther
      subst hOther
      exact hFits

/-
  Changing the entry of a relation binds a request if it
  does so in that entry, be it an old or a new one.
-/
theorem Reflects.update
    {target : String}
    {change : PrefetchEntry → Attempt PrefetchEntry}
    (hEntries :
      Reflects catalog root bindings base entries)
    (hTarget :
      catalog.Leads root (base ++ [relation]) target)
    (hChange :
      ∀ entry : PrefetchEntry,
        entry.relation = relation →
        Fits catalog root bindings base entry →
          ∃ changed,
            change entry = ⟨.ok (), changed⟩ ∧
              changed.relation = relation ∧
                Fits catalog root
                  (bindings ++
                    [(base ++ relation :: rest, spec)])
                  base changed) :
    ∃ results,
      PrefetchEntry.update relation target change entries =
          ⟨.ok (), results⟩ ∧
        Reflects catalog root
          (bindings ++ [(base ++ relation :: rest, spec)])
          base results := by
  by_cases hFound :
      relation ∈ entries.map PrefetchEntry.relation
  · rcases List.mem_map.mp hFound with
      ⟨entry, hMember, hEntry⟩
    rcases hChange entry hEntry (hEntries.fits hMember) with
      ⟨changed, hResult, hSame, hFits⟩
    rcases List.append_of_mem hMember with
      ⟨front, back, rfl⟩
    rcases hEntries.replace hEntry hSame hFits with
      ⟨hResults, hFront⟩
    refine ⟨front ++ changed :: back, ?_, hResults⟩
    rw [PrefetchEntry.update_append hFront hEntry, hResult]
    rfl
  · have hNone := mt (hEntries.entered relation).mpr hFound
    rcases hChange (.bare relation target) rfl
        (fits_bare hTarget hNone) with
      ⟨changed, hResult, hSame, hFits⟩
    refine ⟨entries ++ [changed], ?_,
      hEntries.add hFound hSame hFits⟩
    rw [PrefetchEntry.update_of_not_mem hFound, hResult]
    rfl

/- A relation of the model that a tree is for is found. -/
theorem targetOf_eq_ok
    {name : String}
    {model : Model}
    (hModel : catalog.model? name = some model)
    {found : Relation}
    (hRelation : model.relation? relation = some found) :
    catalog.targetOf name relation = .ok found.target := by
  have hRequire := Catalog.require_eq_ok_iff.mpr hModel
  simp only [Catalog.targetOf, Except.bind_eq_ok_iff]
  refine ⟨model, hRequire, ?_⟩
  rw [hRelation]
  rfl

/-
  A tree changes the entry of a relation of its model. The
  entry is for the model that the relation leads to.
-/
theorem Reflects.change
    {tree : PrefetchTree}
    {target : String}
    {step : PrefetchEntry → Attempt PrefetchEntry}
    (hTree :
      Reflects catalog root bindings base tree.entries)
    (hBase : catalog.Leads root base tree.model)
    (hPath :
      catalog.Leads tree.model (relation :: rest) target)
    (hStep :
      ∀ entry : PrefetchEntry,
        entry.relation = relation →
        Fits catalog root bindings base entry →
        catalog.Leads entry.model rest target →
          ∃ changed,
            step entry = ⟨.ok (), changed⟩ ∧
              changed.relation = relation ∧
                Fits catalog root
                  (bindings ++
                    [(base ++ relation :: rest, spec)])
                  base changed) :
    ∃ results,
      tree.change catalog relation step =
          ⟨.ok (), ⟨tree.model, results⟩⟩ ∧
        Reflects catalog root
          (bindings ++ [(base ++ relation :: rest, spec)])
          base results := by
  cases hPath with
  | step hModel hRelation hRest =>
      have hNext :=
        hBase.concat hModel hRelation hRest.isSome_start
      have hUpdate :=
        hTree.update hNext fun entry hEntry hFits => by
          have hLeads := hFits.leads
          rw [hEntry] at hLeads
          rw [← hLeads.unique hNext] at hRest
          exact hStep entry hEntry hFits hRest
      rcases hUpdate with ⟨results, hResults, hReflects⟩
      refine ⟨results, ?_, hReflects⟩
      rw [PrefetchTree.change, targetOf_eq_ok hModel hRelation]
      simp only [hResults]
      rfl

/-
  A path that leads to a model can be followed through a
  tree of the same catalog, whatever entries are missing, and
  the request is bound at its end.
-/
theorem Reflects.insert
    {path : String}
    {tree : PrefetchTree}
    {target : String}
    (hTree :
      Reflects catalog root bindings base tree.entries)
    (hBase : catalog.Leads root base tree.model)
    (hPath :
      catalog.Leads tree.model (Text.split path) target)
    (spec : LoadSpec) :
    ∃ results,
      PrefetchTree.insert catalog spec path tree =
          ⟨.ok (), ⟨tree.model, results⟩⟩ ∧
        Reflects catalog root
          (bindings ++ [(base ++ Text.split path, spec)])
          base results := by
  fun_induction PrefetchTree.insert catalog spec path tree
    generalizing base with
  | case1 path tree hCut =>
      rw [Text.split_of_cutFirst?_eq_none hCut] at hPath ⊢
      refine hTree.change hBase hPath ?_
      intro entry hEntry hFits _
      refine ⟨_, rfl, hEntry, hFits.leads, ?_, ?_⟩
      · rw [last?_concat, if_pos (by rw [hEntry])]
      · apply hFits.nested.frame
        intro below hPrefix
        have hLength := hPrefix.length_le
        simp at hLength
  | case2 path tree head rest hCut ih =>
      rw [Text.split_of_cutFirst? hCut] at hPath ⊢
      refine hTree.change hBase hPath ?_
      intro entry hEntry hFits hRest
      have hLeads := hFits.leads
      have hNested := hFits.nested
      rw [hEntry] at hLeads hNested
      rcases ih entry hNested hLeads hRest with
        ⟨nested, hResult, hReflects⟩
      rw [List.append_assoc, List.singleton_append]
        at hReflects
      refine ⟨{ entry with nested := nested }, ?_, hEntry,
        hFits.leads, ?_, ?_⟩
      · rw [hResult]
        rfl
      · rw [last?_concat, if_neg]
        · exact hFits.terminal
        · rw [hEntry, List.append_right_inj,
            List.cons_inj_right]
          exact Text.split_ne_nil rest
      · rw [hEntry]
        exact hReflects

end PrefetchTree

end Relmap

------------------------------------------------------------
-- Sequences Of Attachments
------------------------------------------------------------

namespace Relmap

namespace Attachment

/- The request of a call whose path leads to a model. -/
def request
    (call : Attachment)
    (target : String) : LoadSpec :=
  call.spec?.getD ⟨target, none⟩

/- A call binds its request at its path. -/
def Binds
    (catalog : Catalog)
    (root : String)
    (call : Attachment)
    (binding : Binding) : Prop :=
  ∃ target,
    catalog.Leads root (Text.split call.path) target ∧
      (call.request target).model = target ∧
        binding = (Text.split call.path, call.request target)

end Attachment

namespace PrefetchTree

open Binding

variable (catalog : Catalog)

/- The tree after a sequence of calls. -/
def run
    (calls : List Attachment)
    (tree : PrefetchTree) : PrefetchTree :=
  calls.foldl
    (fun tree call => (tree.perform catalog call).left) tree

/- The calls of a sequence that succeed. -/
def succeeded :
    List Attachment → PrefetchTree → List Attachment
  | [], _ => []
  | call :: rest, tree =>
      let attempt := tree.perform catalog call
      match attempt.outcome with
      | .ok () => call :: succeeded rest attempt.left
      | .error _ => succeeded rest attempt.left

variable {catalog}
variable {root : String}
variable {bindings : List Binding}

/- A call whose request loads what its path leads to. -/
theorem perform_of_leads
    {tree : PrefetchTree}
    {call : Attachment}
    {target : String}
    (hPath :
      catalog.Leads tree.model (Text.split call.path) target)
    (hRequest : (call.request target).model = target) :
    tree.perform catalog call =
      PrefetchTree.insert catalog (call.request target)
        call.path tree := by
  unfold perform
  rw [Catalog.reach_eq_ok_iff.mpr hPath]
  unfold Attachment.request at hRequest ⊢
  cases hSpec : call.spec? with
  | none => rfl
  | some spec =>
      rw [hSpec, Option.getD_some] at hRequest
      simp only [Option.getD_some, if_pos hRequest]

/- Any other call fails at once. -/
theorem perform_of_not_leads
    {tree : PrefetchTree}
    {call : Attachment}
    (hNone :
      ∀ target,
        catalog.Leads tree.model (Text.split call.path)
            target →
          (call.request target).model ≠ target) :
    ∃ fault,
      tree.perform catalog call = ⟨.error fault, tree⟩ := by
  unfold perform
  cases hReach : catalog.reach tree.model call.path with
  | error fault => exact ⟨fault, rfl⟩
  | ok target =>
      have hOther :=
        hNone target (Catalog.reach_eq_ok_iff.mp hReach)
      unfold Attachment.request at hOther
      cases hSpec : call.spec? with
      | none =>
          rw [hSpec] at hOther
          exact absurd rfl hOther
      | some spec =>
          rw [hSpec, Option.getD_some] at hOther
          simp only [if_neg hOther]
          exact ⟨_, rfl⟩

/- A call binds its request, or fails without a change. -/
theorem Reflects.perform
    {tree : PrefetchTree}
    (hTree :
      Reflects catalog root bindings [] tree.entries)
    (hModel : tree.model = root)
    (call : Attachment) :
    (∃ fault,
        (∀ binding, ¬ call.Binds catalog root binding) ∧
          tree.perform catalog call =
            ⟨.error fault, tree⟩) ∨
      ∃ binding results,
        call.Binds catalog root binding ∧
          tree.perform catalog call =
              ⟨.ok (), ⟨root, results⟩⟩ ∧
            Reflects catalog root (bindings ++ [binding]) []
              results := by
  subst hModel
  by_cases hBinds :
      ∃ binding, call.Binds catalog tree.model binding
  · right
    rcases hBinds with
      ⟨binding, target, hPath, hRequest, rfl⟩
    rcases hTree.insert (.here hPath.isSome_start) hPath
        (call.request target) with
      ⟨results, hResults, hReflects⟩
    exact ⟨_, results, ⟨target, hPath, hRequest, rfl⟩,
      (perform_of_leads hPath hRequest).trans hResults,
      hReflects⟩
  · left
    rcases perform_of_not_leads
        (fun target hPath hRequest =>
          hBinds ⟨_, target, hPath, hRequest, rfl⟩) with
      ⟨fault, hFault⟩
    exact ⟨fault, not_exists.mp hBinds, hFault⟩

/- A sequence binds the requests of the calls that succeed. -/
theorem Reflects.run
    {tree : PrefetchTree}
    (hTree :
      Reflects catalog root bindings [] tree.entries)
    (hModel : tree.model = root)
    (calls : List Attachment) :
    ∃ added,
      List.Forall₂ (Attachment.Binds catalog root)
          (succeeded catalog calls tree) added ∧
        (PrefetchTree.run catalog calls tree).model = root ∧
          Reflects catalog root (bindings ++ added) []
            (PrefetchTree.run catalog calls tree).entries := by
  induction calls generalizing bindings tree with
  | nil =>
      refine ⟨[], .nil, hModel, ?_⟩
      rw [List.append_nil]
      exact hTree
  | cons call rest ih =>
      unfold succeeded PrefetchTree.run
      rw [List.foldl_cons]
      rcases hTree.perform hModel call with
        ⟨fault, _, hFault⟩ |
          ⟨binding, results, hBinds, hResult, hNext⟩
      · rw [hFault]
        exact ih hTree hModel
      · rw [hResult]
        rcases @ih _ ⟨root, results⟩ hNext rfl with
          ⟨added, hAdded, hRoot, hReflects⟩
        rw [List.append_assoc] at hReflects
        exact ⟨binding :: added, .cons hBinds hAdded, hRoot,
          hReflects⟩

end PrefetchTree

end Relmap
