import Mathlib.Data.List.Forall2
import Relmap.Proofs.Query.Attachment

/-
  What a prefetch tree says about its requests.

  The paths of a tree, cut into segments, are those that the
  requests were bound at. Each is listed once, in an order
  that the calls determine, and leads through the entries of
  the tree to the request that was bound last.

  Main declarations:
    * `PrefetchTree.entryAt?`
    * `Binding.Precedes`
    * `PrefetchTree.Reflects.mem_segments_iff`
    * `PrefetchTree.Reflects.pairwise_segments`
    * `PrefetchTree.Reflects.terminalAt?_eq`
    * `PrefetchTree.records_run`
-/

------------------------------------------------------------
-- Listed Paths
------------------------------------------------------------

namespace Relmap

namespace PrefetchTree

mutual

/- The segments of the paths with a request in an entry. -/
def segmentsOfEntry : PrefetchEntry → List (List String)
  | ⟨relation, _, terminal, nested⟩ =>
      (if terminal.isSome then [[relation]] else []) ++
        (segmentsOfEntries nested).map (relation :: ·)

def segmentsOfEntries :
    List PrefetchEntry → List (List String)
  | [] => []
  | entry :: rest =>
      segmentsOfEntry entry ++ segmentsOfEntries rest

end

variable {entries : List PrefetchEntry}
variable {entry : PrefetchEntry}
variable {path : List String}

theorem segmentsOfEntries_eq_flatMap
    (entries : List PrefetchEntry) :
    segmentsOfEntries entries =
      entries.flatMap segmentsOfEntry := by
  induction entries with
  | nil => rfl
  | cons entry rest ih =>
      rw [segmentsOfEntries, List.flatMap_cons, ih]

/- A path in an entry is its relation, or goes on below. -/
theorem mem_segmentsOfEntry_iff :
    path ∈ segmentsOfEntry entry ↔
      path = [entry.relation] ∧
          entry.terminal.isSome = true ∨
        ∃ rest ∈ segmentsOfEntries entry.nested,
          path = entry.relation :: rest := by
  rcases entry with ⟨relation, model, terminal, nested⟩
  rw [segmentsOfEntry, List.mem_append, List.mem_map]
  simp only [eq_comm]
  cases terminal with
  | none => simp
  | some spec => simp

/- The paths in an entry begin with its relation. -/
theorem prefix_of_mem_segmentsOfEntry
    (hPath : path ∈ segmentsOfEntry entry) :
    [entry.relation] <+: path := by
  rcases mem_segmentsOfEntry_iff.mp hPath with
    ⟨rfl, _⟩ | ⟨rest, _, rfl⟩
  · exact List.prefix_refl _
  · exact ⟨rest, rfl⟩

theorem ne_nil_of_mem_segments
    (hPath : path ∈ segmentsOfEntries entries) :
    path ≠ [] := by
  rw [segmentsOfEntries_eq_flatMap, List.mem_flatMap] at hPath
  rcases hPath with ⟨entry, _, hEntry⟩
  rcases mem_segmentsOfEntry_iff.mp hEntry with
    ⟨rfl, _⟩ | ⟨rest, _, rfl⟩
  · exact List.cons_ne_nil _ _
  · exact List.cons_ne_nil _ _

mutual

/- Paths are written with separators between segments. -/
theorem pathsOfEntry_eq (entry : PrefetchEntry) :
    pathsOfEntry entry =
      (segmentsOfEntry entry).map ("__".intercalate ·) := by
  rcases entry with ⟨relation, model, terminal, nested⟩
  rw [pathsOfEntry, segmentsOfEntry, pathsOfEntries_eq nested,
    List.map_append, List.map_map, List.map_map]
  congr 1
  · cases terminal with
    | none => rfl
    | some spec => simp
  · apply List.map_congr_left
    intro rest hRest
    exact (String.intercalate_cons_of_ne_nil
      (ne_nil_of_mem_segments hRest)).symm

theorem pathsOfEntries_eq (entries : List PrefetchEntry) :
    pathsOfEntries entries =
      (segmentsOfEntries entries).map
        ("__".intercalate ·) := by
  cases entries with
  | nil => rfl
  | cons entry rest =>
      rw [pathsOfEntries, segmentsOfEntries,
        List.map_append, pathsOfEntry_eq entry,
        pathsOfEntries_eq rest]

end

/- The entry at the end of a path. -/
def entryAt?
    (tree : PrefetchTree) :
    List String → Option PrefetchEntry
  | [] => none
  | [segment] => tree.get? segment
  | segment :: next :: rest =>
      (tree.get? segment).bind fun entry =>
        entry.tree.entryAt? (next :: rest)

/- The request at the end of a path. -/
def terminalAt?
    (tree : PrefetchTree)
    (path : List String) : Option LoadSpec :=
  (tree.entryAt? path).bind PrefetchEntry.terminal

end PrefetchTree

end Relmap

------------------------------------------------------------
-- Order Of Paths
------------------------------------------------------------

namespace Relmap

namespace Binding

/-
  A path comes before those that continue it. Where two paths
  part, the one comes first whose relation was the earlier
  one there.
-/
def Precedes
    (paths : List (List String))
    (first second : List String) : Prop :=
  first <+: second ∧ first ≠ second ∨
    ∃ common one other,
      one ≠ other ∧
        common ++ [one] <+: first ∧
        common ++ [other] <+: second ∧
        Earlier paths (common ++ [one]) (common ++ [other])

/- No path comes before itself. -/
theorem Precedes.ne
    {paths : List (List String)}
    {first second : List String}
    (hPrecedes : Precedes paths first second) :
    first ≠ second := by
  rcases hPrecedes with
    ⟨_, hOther⟩ | ⟨common, one, other, hOther, hOne, hSecond, _⟩
  · exact hOther
  · rintro rfl
    have hSame :=
      (List.prefix_of_prefix_length_le hOne hSecond
        (by simp)).eq_of_length (by simp)
    rw [List.append_right_inj] at hSame
    exact hOther (List.singleton_inj.mp hSame)

end Binding

namespace PrefetchTree

open Binding

variable {catalog : Catalog}
variable {root : String}
variable {bindings : List Binding}
variable {base : List String}
variable {entries : List PrefetchEntry}

/- The paths of entries are those of the requests. -/
theorem Reflects.mem_segments_iff
    (hEntries :
      Reflects catalog root bindings base entries)
    (path : List String) :
    path ∈ segmentsOfEntries entries ↔
      path ≠ [] ∧ base ++ path ∈ bindings.map Prod.fst := by
  induction hEntries generalizing path with
  | @intro base entries entered _ _ terminal _ ih =>
      rw [segmentsOfEntries_eq_flatMap, List.mem_flatMap]
      constructor
      · rintro ⟨entry, hMember, hPath⟩
        rcases mem_segmentsOfEntry_iff.mp hPath with
          ⟨rfl, hTerminal⟩ | ⟨rest, hRest, rfl⟩
        · rw [terminal entry hMember, last?_isSome_iff]
            at hTerminal
          exact ⟨List.cons_ne_nil _ _, hTerminal⟩
        · have hBelow := ((ih entry hMember rest).mp hRest).2
          rw [List.append_assoc] at hBelow
          exact ⟨List.cons_ne_nil _ _, hBelow⟩
      · rintro ⟨hNil, hBound⟩
        rcases List.exists_cons_of_ne_nil hNil with
          ⟨relation, rest, rfl⟩
        have hThrough :
            Through (bindings.map Prod.fst)
              (base ++ [relation]) :=
          ⟨_, hBound, ⟨rest, by simp⟩⟩
        rcases List.mem_map.mp
            ((entered relation).mpr hThrough) with
          ⟨entry, hMember, rfl⟩
        refine ⟨entry, hMember,
          mem_segmentsOfEntry_iff.mpr ?_⟩
        cases rest with
        | nil =>
            left
            rw [terminal entry hMember, last?_isSome_iff]
            exact ⟨rfl, hBound⟩
        | cons next rest =>
            right
            refine ⟨next :: rest, ?_, rfl⟩
            rw [ih entry hMember, List.append_assoc]
            exact ⟨List.cons_ne_nil _ _, hBound⟩

/- The paths of entries are listed in their order. -/
theorem Reflects.pairwise_segments
    (hEntries :
      Reflects catalog root bindings base entries) :
    (segmentsOfEntries entries).Pairwise fun first second =>
      Precedes (bindings.map Prod.fst)
        (base ++ first) (base ++ second) := by
  induction hEntries with
  | @intro base entries _ ordered _ _ _ ih =>
      rw [segmentsOfEntries_eq_flatMap, List.pairwise_flatMap]
      constructor
      · intro entry hMember
        have hNested := ih entry hMember
        rcases entry with ⟨relation, model, terminal, nested⟩
        rw [segmentsOfEntry, List.pairwise_append,
          List.pairwise_map]
        refine ⟨?_, ?_, ?_⟩
        · split
          · exact List.pairwise_singleton _ _
          · exact .nil
        · simpa only [List.append_assoc,
            List.singleton_append] using hNested
        · intro first hFirst second hSecond
          rcases List.mem_map.mp hSecond with
            ⟨rest, hRest, rfl⟩
          split at hFirst
          · rw [List.mem_singleton] at hFirst
            subst hFirst
            left
            rw [List.prefix_append_right_inj, ne_eq,
              List.append_right_inj, List.cons_inj_right]
            exact ⟨⟨rest, rfl⟩,
              (ne_nil_of_mem_segments hRest).symm⟩
          · cases hFirst
      · rw [List.pairwise_map] at ordered
        refine ordered.imp ?_
        rintro one other ⟨hOther, hEarlier⟩
          first hFirst second hSecond
        right
        refine ⟨base, one.relation, other.relation, hOther,
          ?_, ?_, hEarlier⟩
        · rw [List.prefix_append_right_inj]
          exact prefix_of_mem_segmentsOfEntry hFirst
        · rw [List.prefix_append_right_inj]
          exact prefix_of_mem_segmentsOfEntry hSecond

/- A relation that some path goes on with has its entry. -/
theorem Reflects.exists_get?
    {tree : PrefetchTree}
    (hTree :
      Reflects catalog root bindings base tree.entries)
    {relation : String}
    (hThrough :
      Through (bindings.map Prod.fst) (base ++ [relation])) :
    ∃ entry,
      tree.get? relation = some entry ∧
        entry.relation = relation ∧
          Fits catalog root bindings base entry := by
  have hFound : (tree.get? relation).isSome = true := by
    rw [← hTree.entered] at hThrough
    simpa [get?] using hThrough
  rcases Option.isSome_iff_exists.mp hFound with
    ⟨entry, hEntry⟩
  refine ⟨entry, hEntry, ?_, ?_⟩
  · simpa using List.find?_some hEntry
  · exact hTree.fits (List.mem_of_find?_eq_some hEntry)

/- Bound paths lead through the entries to their requests. -/
theorem Reflects.exists_entryAt?
    {tree : PrefetchTree}
    (hTree :
      Reflects catalog root bindings base tree.entries)
    {path : List String}
    (hNil : path ≠ [])
    (hThrough :
      Through (bindings.map Prod.fst) (base ++ path)) :
    ∃ entry,
      tree.entryAt? path = some entry ∧
        catalog.Leads root (base ++ path) entry.model ∧
          entry.terminal = last? bindings (base ++ path) := by
  induction path generalizing base tree with
  | nil => exact absurd rfl hNil
  | cons segment rest ih =>
      rw [List.append_cons] at hThrough ⊢
      rcases hTree.exists_get? hThrough.of_append with
        ⟨entry, hEntry, rfl, hFits⟩
      cases rest with
      | nil =>
          rw [List.append_nil]
          exact ⟨entry, hEntry, hFits.leads, hFits.terminal⟩
      | cons next rest =>
          rcases @ih _ entry.tree hFits.nested
              (List.cons_ne_nil _ _) hThrough with
            ⟨last, hLast, hRest⟩
          refine ⟨last, ?_, hRest⟩
          rw [entryAt?, hEntry]
          exact hLast

/- Other paths lead nowhere. -/
theorem Reflects.entryAt?_eq_none
    {tree : PrefetchTree}
    (hTree :
      Reflects catalog root bindings base tree.entries)
    {path : List String}
    (hNone :
      ¬ Through (bindings.map Prod.fst) (base ++ path)) :
    tree.entryAt? path = none := by
  induction path generalizing base tree with
  | nil => rfl
  | cons segment rest ih =>
      cases hEntry : tree.get? segment with
      | none =>
          cases rest with
          | nil => exact hEntry
          | cons next rest =>
              rw [entryAt?, hEntry]
              rfl
      | some entry =>
          have hMember := List.mem_of_find?_eq_some hEntry
          have hSegment : entry.relation = segment := by
            simpa using List.find?_some hEntry
          subst hSegment
          cases rest with
          | nil =>
              have hEntered := (hTree.entered _).mp
                (List.mem_map_of_mem hMember)
              exact absurd hEntered hNone
          | cons next rest =>
              rw [List.append_cons] at hNone
              rw [entryAt?, hEntry]
              exact @ih _ entry.tree
                (hTree.fits hMember).nested hNone

/- What is found at a path was bound there last. -/
theorem Reflects.terminalAt?_eq
    {tree : PrefetchTree}
    (hTree :
      Reflects catalog root bindings base tree.entries)
    {path : List String}
    (hNil : path ≠ []) :
    tree.terminalAt? path =
      last? bindings (base ++ path) := by
  unfold terminalAt?
  by_cases hThrough :
      Through (bindings.map Prod.fst) (base ++ path)
  · rcases hTree.exists_entryAt? hNil hThrough with
      ⟨entry, hEntry, _, hTerminal⟩
    rw [hEntry]
    exact hTerminal
  · rw [hTree.entryAt?_eq_none hThrough]
    cases hLast : last? bindings (base ++ path) with
    | none => rfl
    | some spec =>
        have hBound :=
          last?_isSome_iff.mp (Option.isSome_of_eq_some hLast)
        exact absurd ⟨_, hBound, List.prefix_refl _⟩ hThrough

end PrefetchTree

end Relmap

------------------------------------------------------------
-- Trees And Calls
------------------------------------------------------------

namespace Relmap

namespace Attachment

open Binding

variable {catalog : Catalog}
variable {root : String}
variable {calls : List Attachment}
variable {bindings : List Binding}

/- Requests are bound at the paths of their calls. -/
theorem map_fst_of_binds
    (hBinds :
      List.Forall₂ (Binds catalog root) calls bindings) :
    bindings.map Prod.fst =
      calls.map fun call => Text.split call.path := by
  induction hBinds with
  | nil => rfl
  | cons hFirst _ ih =>
      rcases hFirst with ⟨target, _, _, rfl⟩
      rw [List.map_cons, List.map_cons, ih]

/- The first request at a path is that of the first call. -/
theorem find?_of_binds
    (hBinds :
      List.Forall₂ (Binds catalog root) calls bindings)
    {path : String}
    {binding : Binding}
    (hBinding :
      bindings.find? (fun binding =>
        binding.1 = Text.split path) = some binding) :
    ∃ call,
      calls.find? (fun call => call.path = path) =
          some call ∧
        call.Binds catalog root binding := by
  induction hBinds with
  | nil => cases hBinding
  | @cons call first calls rest hFirst _ ih =>
      have hPath : first.1 = Text.split call.path := by
        rcases hFirst with ⟨target, _, _, rfl⟩
        rfl
      rw [List.find?_cons] at hBinding
      by_cases hSame : call.path = path
      · rw [hPath, hSame, decide_eq_true rfl] at hBinding
        cases hBinding
        exact ⟨call, by simp [hSame], hFirst⟩
      · have hOther :
            Text.split call.path ≠ Text.split path :=
          fun hSegments =>
            hSame (Text.split_injective hSegments)
        rw [hPath, decide_eq_false hOther] at hBinding
        rcases ih hBinding with ⟨found, hFound, hRequest⟩
        refine ⟨found, ?_, hRequest⟩
        rw [List.find?_cons, decide_eq_false hSame]
        exact hFound

end Attachment

namespace PrefetchTree

open Binding

/-
  A tree records calls if its paths are theirs, each listed
  once and in order, and each leading to the request of the
  last call at it and to the model of that request.
-/
structure Records
    (catalog : Catalog)
    (root : String)
    (calls : List Attachment)
    (tree : PrefetchTree) : Prop where
  nodup : tree.paths.Nodup
  mem_paths_iff :
    ∀ path,
      path ∈ tree.paths ↔ ∃ call ∈ calls, call.path = path
  reaches :
    ∀ path ∈ tree.paths, ∃ call target entry,
      calls.reverse.find? (fun call => call.path = path) =
          some call ∧
        catalog.Leads root (Text.split path) target ∧
        tree.entryAt? (Text.split path) = some entry ∧
        entry.tree.model = target ∧
        entry.terminal = some (call.request target) ∧
        (call.request target).model = target
  ordered :
    tree.paths.Pairwise fun first second =>
      Precedes (calls.map fun call => Text.split call.path)
        (Text.split first) (Text.split second)

variable {catalog : Catalog}
variable {root : String}
variable {calls : List Attachment}
variable {bindings : List Binding}
variable {tree : PrefetchTree}

theorem paths_eq (tree : PrefetchTree) :
    tree.paths =
      (segmentsOfEntries tree.entries).map
        ("__".intercalate ·) :=
  pathsOfEntries_eq tree.entries

/- The paths of a tree are those of its calls. -/
theorem Reflects.mem_segments_iff_of_binds
    (hTree :
      Reflects catalog root bindings [] tree.entries)
    (hBinds :
      List.Forall₂ (Attachment.Binds catalog root) calls
        bindings)
    {segments : List String} :
    segments ∈ segmentsOfEntries tree.entries ↔
      ∃ call ∈ calls, Text.split call.path = segments := by
  rw [hTree.mem_segments_iff, List.nil_append,
    Attachment.map_fst_of_binds hBinds, List.mem_map]
  constructor
  · exact And.right
  · rintro ⟨call, hCall, rfl⟩
    exact ⟨Text.split_ne_nil _, call, hCall, rfl⟩

theorem Reflects.mem_paths_iff
    (hTree :
      Reflects catalog root bindings [] tree.entries)
    (hBinds :
      List.Forall₂ (Attachment.Binds catalog root) calls
        bindings)
    (path : String) :
    path ∈ tree.paths ↔ ∃ call ∈ calls, call.path = path := by
  rw [paths_eq, List.mem_map]
  constructor
  · rintro ⟨segments, hSegments, rfl⟩
    rcases (hTree.mem_segments_iff_of_binds hBinds).mp
        hSegments with
      ⟨call, hCall, rfl⟩
    exact ⟨call, hCall, (Text.intercalate_split _).symm⟩
  · rintro ⟨call, hCall, rfl⟩
    exact ⟨Text.split call.path,
      (hTree.mem_segments_iff_of_binds hBinds).mpr
        ⟨call, hCall, rfl⟩,
      Text.intercalate_split _⟩

/- Paths are listed in the order of their calls. -/
theorem Reflects.pairwise_paths
    (hTree :
      Reflects catalog root bindings [] tree.entries)
    (hBinds :
      List.Forall₂ (Attachment.Binds catalog root) calls
        bindings) :
    tree.paths.Pairwise fun first second =>
      Precedes (calls.map fun call => Text.split call.path)
        (Text.split first) (Text.split second) := by
  rw [paths_eq, List.pairwise_map,
    ← Attachment.map_fst_of_binds hBinds]
  refine hTree.pairwise_segments.imp_of_mem ?_
  intro first second hFirst hSecond hPrecedes
  rw [hTree.mem_segments_iff_of_binds hBinds]
    at hFirst hSecond
  rcases hFirst with ⟨one, _, rfl⟩
  rcases hSecond with ⟨other, _, rfl⟩
  rw [Text.intercalate_split, Text.intercalate_split]
  exact hPrecedes

/- A listed path leads to the request of its last call. -/
theorem Reflects.reaches
    (hTree :
      Reflects catalog root bindings [] tree.entries)
    (hBinds :
      List.Forall₂ (Attachment.Binds catalog root) calls
        bindings)
    {path : String}
    (hPath : path ∈ tree.paths) :
    ∃ call target entry,
      calls.reverse.find? (fun call => call.path = path) =
          some call ∧
        catalog.Leads root (Text.split path) target ∧
        tree.entryAt? (Text.split path) = some entry ∧
        entry.tree.model = target ∧
        entry.terminal = some (call.request target) ∧
        (call.request target).model = target := by
  have hBound :
      Text.split path ∈ bindings.map Prod.fst := by
    rcases (hTree.mem_paths_iff hBinds path).mp hPath with
      ⟨call, hCall, rfl⟩
    rw [Attachment.map_fst_of_binds hBinds]
    exact List.mem_map_of_mem hCall
  rcases hTree.exists_entryAt? (Text.split_ne_nil path)
      ⟨_, hBound, List.prefix_refl _⟩ with
    ⟨entry, hEntry, hModel, hTerminal⟩
  rw [List.nil_append] at hModel hTerminal
  rcases Option.isSome_iff_exists.mp
      (last?_isSome_iff.mpr hBound) with
    ⟨spec, hLast⟩
  rw [hLast] at hTerminal
  rcases Option.map_eq_some_iff.mp hLast with
    ⟨binding, hBinding, rfl⟩
  rcases Attachment.find?_of_binds
      (List.forall₂_reverse_iff.mpr hBinds) hBinding with
    ⟨call, hCall, target, hTarget, hRequest, rfl⟩
  have hSame : call.path = path := by
    simpa using List.find?_some hCall
  rw [hSame] at hTarget
  exact ⟨call, target, entry, hCall, hTarget, hEntry,
    hModel.unique hTarget, hTerminal, hRequest⟩

/- A tree records the calls that it reflects. -/
theorem Reflects.records
    (hTree :
      Reflects catalog root bindings [] tree.entries)
    (hBinds :
      List.Forall₂ (Attachment.Binds catalog root) calls
        bindings) :
    tree.Records catalog root calls where
  nodup := (hTree.pairwise_paths hBinds).imp
    fun hPrecedes hSame =>
      hPrecedes.ne (congrArg Text.split hSame)
  mem_paths_iff := hTree.mem_paths_iff hBinds
  reaches := fun _ => hTree.reaches hBinds
  ordered := hTree.pairwise_paths hBinds

/-
  Whatever is attached, the tree records the calls that
  succeeded, which are those whose request loads the model
  that their path leads to. A call that fails changes
  nothing, and no call changes a request at another path.
-/
theorem records_run
    (catalog : Catalog)
    (root : String)
    (calls : List Attachment) :
    (run catalog calls (.ofModel root)).Records catalog root
        (succeeded catalog calls (.ofModel root)) ∧
      ∀ call : Attachment,
        (((run catalog calls (.ofModel root)).perform
              catalog call).outcome = .ok () ↔
            ∃ target,
              catalog.Leads root (Text.split call.path)
                  target ∧
                (call.request target).model = target) ∧
        (∀ fault,
          ((run catalog calls (.ofModel root)).perform
                catalog call).outcome = .error fault →
            ((run catalog calls (.ofModel root)).perform
                catalog call).left =
              run catalog calls (.ofModel root)) ∧
        ∀ path, path ≠ call.path →
          ((run catalog calls (.ofModel root)).perform
                catalog call).left.terminalAt?
              (Text.split path) =
            (run catalog calls (.ofModel root)).terminalAt?
              (Text.split path) := by
  have hEmpty :
      Reflects catalog root [] []
        (PrefetchTree.ofModel root).entries :=
    reflects_nil (by rintro ⟨_, hMember, _⟩; cases hMember)
  rcases hEmpty.run rfl calls with
    ⟨bindings, hBinds, hModel, hTree⟩
  rw [List.nil_append] at hTree
  refine ⟨hTree.records hBinds, fun call => ?_⟩
  rcases hTree.perform hModel call with
    ⟨fault, hNone, hFault⟩ |
      ⟨binding, results, hCall, hResult, hNext⟩
  · rw [hFault]
    refine ⟨iff_of_false ?_ ?_, fun _ _ => rfl,
      fun _ _ => rfl⟩
    · exact fun hOk => by cases hOk
    · rintro ⟨target, hPath, hRequest⟩
      exact hNone _ ⟨target, hPath, hRequest, rfl⟩
  · rw [hResult]
    rcases hCall with ⟨target, hLeads, hRequest, rfl⟩
    refine ⟨iff_of_true rfl ⟨target, hLeads, hRequest⟩,
      ?_, ?_⟩
    · intro fault hFault
      cases hFault
    · intro path hPath
      have hOther :
          Text.split call.path ≠ Text.split path :=
        fun hSame => hPath (Text.split_injective hSame).symm
      rw [hTree.terminalAt?_eq (Text.split_ne_nil path),
        Reflects.terminalAt?_eq hNext
          (Text.split_ne_nil path),
        last?_concat, List.nil_append, if_neg hOther]

end PrefetchTree

end Relmap
