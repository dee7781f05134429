import Mathlib.Data.Fintype.Card
import Mathlib.Data.Fintype.EquivFin
import Mathlib.Data.Fintype.Sets
import Mathlib.Logic.Relation
import Mathlib.Order.WellFounded
import Relmap.Proofs.Outcome
import Relmap.Schema.Order

/-
  The order of creation exists exactly if references do not
  run in a circle.

  Placing ready plans one at a time either ends with every
  plan behind the tables that it references, or is stuck
  with plans that all reference one another.

  Main declarations:
    * `TablePlan.InOrder`
    * `TablePlan.inOrder_of_order`
    * `TablePlan.Edge`
    * `TablePlan.order_eq_error_iff`
-/

------------------------------------------------------------
-- One Step
------------------------------------------------------------

namespace Relmap

namespace TablePlan

variable {placed : List String}
variable {pending : List TablePlan}

/- What a plan needs is its own table or placed already. -/
theorem isReady_iff {plan : TablePlan} :
    plan.isReady placed = true ↔
      ∀ table ∈ plan.references,
        table = plan.table ∨ table ∈ placed := by
  simp [isReady, List.all_eq_true]

/- A plan that is taken was ready, and all others stay. -/
theorem takeReady?_eq_some
    {plan : TablePlan}
    {others : List TablePlan}
    (hTake :
      takeReady? placed pending = some (plan, others)) :
    plan.isReady placed = true ∧
      pending.Perm (plan :: others) := by
  induction pending generalizing plan others with
  | nil => simp [takeReady?] at hTake
  | cons first rest ih =>
      unfold takeReady? at hTake
      by_cases hReady : first.isReady placed = true
      · rw [if_pos hReady] at hTake
        cases hTake
        exact ⟨hReady, List.Perm.refl _⟩
      · rw [if_neg hReady] at hTake
        rcases Option.map_eq_some_iff.mp hTake with
          ⟨⟨found, left⟩, hRest, hPair⟩
        cases hPair
        rcases ih hRest with ⟨hReady, hPerm⟩
        refine ⟨hReady, ?_⟩
        exact (hPerm.cons first).trans (.swap plan first left)

/- No plan can be taken exactly if none is ready. -/
theorem takeReady?_eq_none_iff :
    takeReady? placed pending = none ↔
      ∀ plan ∈ pending, plan.isReady placed = false := by
  induction pending with
  | nil => simp [takeReady?]
  | cons first rest ih =>
      unfold takeReady?
      by_cases hReady : first.isReady placed = true
      · simp [hReady]
      · rw [if_neg hReady, Option.map_eq_none_iff, ih]
        simp [hReady]

end TablePlan

end Relmap

------------------------------------------------------------
-- All Steps
------------------------------------------------------------

namespace Relmap

namespace TablePlan

/-
  Each plan of a row is ready once the given tables and
  those of the plans before it are placed.
-/
def InOrder (placed : List String) : List TablePlan → Prop
  | [] => True
  | plan :: rest =>
      plan.isReady placed = true ∧
        InOrder (plan.table :: placed) rest

/-
  Plans that are left when no step is possible: none of them
  is ready, and every other plan has been placed.
-/
structure Stuck
    (placed : List String)
    (pending : List TablePlan)
    (done : List String)
    (stuck : List TablePlan) : Prop where
  nonempty : stuck ≠ []
  subset : stuck ⊆ pending
  kept : placed ⊆ done
  others : ∀ plan ∈ pending, plan ∈ stuck ∨ plan.table ∈ done
  notReady : ∀ plan ∈ stuck, plan.isReady done = false

variable {placed : List String}
variable {pending : List TablePlan}

/- If all plans are placed they are in order. -/
theorem inOrder_of_orderFrom
    {ordered : List TablePlan}
    (hOrder : orderFrom placed pending = .ok ordered) :
    ordered.Perm pending ∧ InOrder placed ordered := by
  fun_induction orderFrom placed pending
    generalizing ordered with
  | case1 placed pending plan others hTake ih =>
      rcases Except.map_eq_ok_iff.mp hOrder with
        ⟨rest, hRest, rfl⟩
      rcases takeReady?_eq_some hTake with ⟨hReady, hPerm⟩
      rcases ih hRest with ⟨hOthers, hInOrder⟩
      refine ⟨?_, hReady, hInOrder⟩
      exact (hOthers.cons plan).trans hPerm.symm
  | case2 placed pending hTake hEmpty =>
      cases hOrder
      rw [List.isEmpty_iff.mp hEmpty]
      exact ⟨List.Perm.refl [], trivial⟩
  | case3 placed pending hTake hEmpty => cases hOrder

/- Otherwise some plans are stuck. -/
theorem exists_stuck_of_orderFrom
    {fault : Error}
    (hOrder : orderFrom placed pending = .error fault) :
    fault = .cyclicReferences ∧
      ∃ done stuck, Stuck placed pending done stuck := by
  fun_induction orderFrom placed pending with
  | case1 placed pending plan others hTake ih =>
      have hRest :
          orderFrom (plan.table :: placed) others =
            .error fault := by
        cases hOthers : orderFrom (plan.table :: placed) others with
        | ok rest =>
            rw [hOthers] at hOrder
            cases hOrder
        | error other =>
            rw [hOthers] at hOrder
            cases hOrder
            rfl
      rcases ih hRest with ⟨hFault, done, stuck, hStuck⟩
      rcases takeReady?_eq_some hTake with ⟨_, hPerm⟩
      refine ⟨hFault, done, stuck, ?_⟩
      rcases List.cons_subset.mp hStuck.kept with
        ⟨hTable, hKept⟩
      constructor
      · exact hStuck.nonempty
      · intro left hLeft
        exact hPerm.mem_iff.mpr
          (List.mem_cons_of_mem plan (hStuck.subset hLeft))
      · exact hKept
      · intro left hLeft
        rcases List.mem_cons.mp (hPerm.mem_iff.mp hLeft) with
          rfl | hOther
        · exact .inr hTable
        · exact hStuck.others left hOther
      · exact hStuck.notReady
  | case2 placed pending hTake hEmpty => cases hOrder
  | case3 placed pending hTake hEmpty =>
      cases hOrder
      refine ⟨rfl, placed, pending, ?_⟩
      constructor
      · intro hNil
        exact hEmpty (List.isEmpty_iff.mpr hNil)
      · exact List.Subset.refl pending
      · exact List.Subset.refl placed
      · exact fun plan hMember => .inl hMember
      · exact takeReady?_eq_none_iff.mp hTake

end TablePlan

end Relmap

------------------------------------------------------------
-- Circles
------------------------------------------------------------

namespace Relmap

namespace TablePlan

/- A table references another one. -/
def Edge
    (plans : List TablePlan)
    (table : String)
    (other : String) : Prop :=
  ∃ plan ∈ plans,
    plan.table = table ∧ other ∈ plan.references ∧
      other ≠ table

/- References run in a circle. -/
def HasCycle (plans : List TablePlan) : Prop :=
  ∃ table, Relation.TransGen (Edge plans) table table

/-
  If finitely many tables all reference one another then
  following the references ends in a circle: without one
  they would be well-founded, and some table would be last.
-/
theorem exists_transGen_of_successors
    {edge : String → String → Prop}
    {tables : List String}
    (hTables : tables ≠ [])
    (hEdges :
      ∀ table ∈ tables, ∃ other ∈ tables, edge table other) :
    ∃ table, Relation.TransGen edge table table := by
  by_contra hNone
  push Not at hNone
  let Before (other table : { table // table ∈ tables }) :=
    Relation.TransGen edge table.val other.val
  have hTrans : IsTrans _ Before :=
    ⟨fun _ _ _ hFirst hSecond => hSecond.trans hFirst⟩
  have hIrrefl : Std.Irrefl Before :=
    ⟨fun table => hNone table.val⟩
  have hWellFounded : WellFounded Before :=
    Finite.wellFounded_of_trans_of_irrefl Before
  rcases List.exists_mem_of_ne_nil tables hTables with
    ⟨first, hFirst⟩
  rcases
      hWellFounded.has_min Set.univ
        ⟨⟨first, hFirst⟩, trivial⟩ with
    ⟨last, _, hLast⟩
  rcases hEdges last.val last.property with
    ⟨other, hOther, hEdge⟩
  exact hLast ⟨other, hOther⟩ trivial (.single hEdge)

/- Every table that a plan references is planned. -/
def IsClosed (plans : List TablePlan) : Prop :=
  ∀ plan ∈ plans, ∀ table ∈ plan.references,
    ∃ target ∈ plans, target.table = table

/- Stuck plans reference one another. -/
theorem Stuck.hasCycle
    {plans stuck : List TablePlan}
    {done : List String}
    (hStuck : Stuck [] plans done stuck)
    (hClosed : IsClosed plans) :
    HasCycle plans := by
  have hTables : stuck.map TablePlan.table ≠ [] := by
    rw [ne_eq, List.map_eq_nil_iff]
    exact hStuck.nonempty
  apply exists_transGen_of_successors hTables
  intro table hTable
  rcases List.mem_map.mp hTable with ⟨plan, hPlan, rfl⟩
  have hNotReady := hStuck.notReady plan hPlan
  rw [← Bool.not_eq_true, isReady_iff] at hNotReady
  push Not at hNotReady
  rcases hNotReady with ⟨other, hOther, hSelf, hDone⟩
  have hMember := hStuck.subset hPlan
  rcases hClosed plan hMember other hOther with
    ⟨target, hTarget, rfl⟩
  have hStays : target ∈ stuck :=
    (hStuck.others target hTarget).resolve_right hDone
  refine ⟨target.table, List.mem_map_of_mem hStays, ?_⟩
  exact ⟨plan, hMember, rfl, hOther, hSelf⟩

end TablePlan

end Relmap

------------------------------------------------------------
-- Order And Circles
------------------------------------------------------------

namespace Relmap

namespace TablePlan

/-
  What a plan needs is its own table, or placed, or the
  table of a plan before it.
-/
theorem InOrder.mem_before
    {placed : List String}
    {before : List TablePlan}
    {plan : TablePlan}
    {after : List TablePlan}
    (hInOrder : InOrder placed (before ++ plan :: after))
    {table : String}
    (hTable : table ∈ plan.references) :
    table = plan.table ∨ table ∈ placed ∨
      table ∈ before.map TablePlan.table := by
  induction before generalizing placed with
  | nil =>
      rcases isReady_iff.mp hInOrder.1 table hTable with
        hOwn | hPlaced
      · exact .inl hOwn
      · exact .inr (.inl hPlaced)
  | cons first before ih =>
      rw [List.map_cons, List.mem_cons]
      rcases ih hInOrder.2 with hOwn | hPlaced | hBefore
      · exact .inl hOwn
      · rcases List.mem_cons.mp hPlaced with hFirst | hPlaced
        · exact .inr (.inr (.inl hFirst))
        · exact .inr (.inl hPlaced)
      · exact .inr (.inr (.inr hBefore))

/- In an order, a referenced table has an earlier place. -/
theorem InOrder.idxOf_lt
    {ordered : List TablePlan}
    (hInOrder : InOrder [] ordered)
    (hNodup : (ordered.map TablePlan.table).Nodup)
    {table other : String}
    (hEdge : Edge ordered table other) :
    (ordered.map TablePlan.table).idxOf other <
      (ordered.map TablePlan.table).idxOf table := by
  rcases hEdge with ⟨plan, hPlan, rfl, hOther, hSelf⟩
  rcases List.append_of_mem hPlan with ⟨before, after, rfl⟩
  have hBefore :
      other ∈ before.map TablePlan.table := by
    rcases hInOrder.mem_before hOther with
      hOwn | hNone | hBefore
    · exact absurd hOwn hSelf
    · exact absurd hNone List.not_mem_nil
    · exact hBefore
  rw [List.map_append, List.map_cons] at hNodup ⊢
  have hTable :
      plan.table ∉ before.map TablePlan.table := by
    intro hMember
    exact (List.nodup_append.mp hNodup).2.2 _ hMember _
      List.mem_cons_self rfl
  rw [List.idxOf_append_of_mem hBefore,
    List.idxOf_append_of_notMem hTable, List.idxOf_cons_self]
  exact Nat.lt_add_right 0 (List.idxOf_lt_length_of_mem hBefore)

/- Plans that are in order have no circle. -/
theorem InOrder.not_hasCycle
    {ordered : List TablePlan}
    (hInOrder : InOrder [] ordered)
    (hNodup : (ordered.map TablePlan.table).Nodup) :
    ¬ HasCycle ordered := by
  rintro ⟨table, hCycle⟩
  let place (name : String) :=
    (ordered.map TablePlan.table).idxOf name
  have hLess (name other : String)
      (hEdge : Edge ordered name other) :
      place name > place other :=
    hInOrder.idxOf_lt hNodup hEdge
  have hPlaces :
      Relation.TransGen (· > ·) (place table) (place table) :=
    Relation.TransGen.lift place hLess table table hCycle
  rw [Relation.transGen_eq_self] at hPlaces
  exact Nat.lt_irrefl _ hPlaces

/- Plans in another row reference the same tables. -/
theorem hasCycle_of_perm
    {plans others : List TablePlan}
    (hPerm : plans.Perm others)
    (hCycle : HasCycle plans) :
    HasCycle others := by
  rcases hCycle with ⟨table, hCycle⟩
  have hEdges (name other : String)
      (hEdge : Edge plans name other) :
      Edge others name other := by
    rcases hEdge with ⟨plan, hPlan, hReferences⟩
    exact ⟨plan, hPerm.mem_iff.mp hPlan, hReferences⟩
  exact ⟨table,
    Relation.TransGen.mono hEdges table table hCycle⟩

/-
  Plans of distinct tables that reference planned tables
  cannot be ordered exactly if references run in a circle,
  and there is no other fault.
-/
theorem order_eq_error_iff
    {plans : List TablePlan}
    (hNodup : (plans.map TablePlan.table).Nodup)
    (hClosed : IsClosed plans)
    (fault : Error) :
    order plans = .error fault ↔
      fault = .cyclicReferences ∧ HasCycle plans := by
  constructor
  · intro hOrder
    rcases exists_stuck_of_orderFrom hOrder with
      ⟨hFault, done, stuck, hStuck⟩
    exact ⟨hFault, hStuck.hasCycle hClosed⟩
  · rintro ⟨rfl, hCycle⟩
    cases hOrder : order plans with
    | error other =>
        rw [(exists_stuck_of_orderFrom hOrder).1]
    | ok ordered =>
        rcases inOrder_of_orderFrom hOrder with
          ⟨hPerm, hInOrder⟩
        have hTables :
            (ordered.map TablePlan.table).Nodup :=
          (hPerm.map TablePlan.table).nodup_iff.mpr hNodup
        exact absurd (hasCycle_of_perm hPerm.symm hCycle)
          (hInOrder.not_hasCycle hTables)

end TablePlan

end Relmap
