import Mathlib.Data.List.FinRange
import Mathlib.Data.List.Lex
import Mathlib.Order.Bounds.Basic
import Relmap.Proofs.Schema.Order

/-
  Of all orders in which tables can be created, the least one
  is found.

  An order of plans is told by their places in the list that
  was given. Orders are compared as words are, place by
  place, so in the least one every plan keeps its place as
  far as its references allow. If no order is found there is
  none, also with tables that are planned more than once or
  not at all.

  Main declarations:
    * `TablePlan.IsOrdered`
    * `TablePlan.isOrdered_iff`
    * `TablePlan.Stuck.not_inOrder`
    * `TablePlan.exists_least_of_orderFrom`
    * `TablePlan.IsOrderOf`
    * `TablePlan.order_isLeast`
-/

------------------------------------------------------------
-- Rows In Order
------------------------------------------------------------

namespace Relmap

namespace TablePlan

/-
  Every table that a plan of a row references is its own or
  that of an earlier plan.
-/
def IsOrdered (plans : List TablePlan) : Prop :=
  ∀ before plan after,
    plans = before ++ plan :: after →
      ∀ table ∈ plan.references,
        table = plan.table ∨
          table ∈ before.map TablePlan.table

variable {placed : List String}
variable {plans pending ordered : List TablePlan}

/- Plans are in order if what they need is before them. -/
theorem inOrder_of_mem_before
    (hBefore :
      ∀ before plan after,
        plans = before ++ plan :: after →
          ∀ table ∈ plan.references,
            table = plan.table ∨ table ∈ placed ∨
              table ∈ before.map TablePlan.table) :
    InOrder placed plans := by
  induction plans generalizing placed with
  | nil => trivial
  | cons first rest ih =>
      refine ⟨isReady_iff.mpr ?_, ih ?_⟩
      · intro table hTable
        rcases hBefore [] first rest rfl table hTable with
          hOwn | hPlaced | hNone
        · exact .inl hOwn
        · exact .inr hPlaced
        · cases hNone
      · intro before plan after hRest table hTable
        have hPlans :
            first :: rest =
              (first :: before) ++ plan :: after := by
          rw [hRest, List.cons_append]
        rcases hBefore _ plan after hPlans table hTable with
          hOwn | hPlaced | hEarlier
        · exact .inl hOwn
        · exact .inr (.inl (List.mem_cons_of_mem _ hPlaced))
        · rw [List.map_cons, List.mem_cons] at hEarlier
          rw [List.mem_cons]
          tauto

/- A row is ordered if its plans are ready one by one. -/
theorem isOrdered_iff :
    IsOrdered plans ↔ InOrder [] plans := by
  constructor
  · intro hOrdered
    apply inOrder_of_mem_before
    intro before plan after hPlans table hTable
    exact (hOrdered before plan after hPlans table
      hTable).imp_right .inr
  · rintro hInOrder before plan after rfl table hTable
    simpa using hInOrder.mem_before hTable

/- More tables may be placed than are needed. -/
theorem isReady_mono
    {others : List String}
    (hPlaced : placed ⊆ others)
    {plan : TablePlan}
    (hReady : plan.isReady placed = true) :
    plan.isReady others = true := by
  rw [isReady_iff] at hReady ⊢
  intro table hTable
  exact (hReady table hTable).imp_right (@hPlaced table)

/- Plans that are in order are taken as they come. -/
theorem orderFrom_of_inOrder
    (hInOrder : InOrder placed plans) :
    orderFrom placed plans = .ok plans := by
  induction plans generalizing placed with
  | nil => rw [orderFrom]; rfl
  | cons first rest ih =>
      have hTake :
          takeReady? placed (first :: rest) =
            some (first, rest) := by
        rw [takeReady?, if_pos hInOrder.1]
      rw [orderFrom]
      split
      · rename_i plan others hTaken
        rw [hTake] at hTaken
        cases hTaken
        rw [ih hInOrder.2]
        rfl
      · rename_i hNone
        rw [hTake] at hNone
        cases hNone

end TablePlan

end Relmap

------------------------------------------------------------
-- Stuck Plans
------------------------------------------------------------

namespace Relmap

namespace TablePlan

variable {placed done : List String}
variable {pending stuck ordered : List TablePlan}

/-
  In a row of plans that are ready one by one none is stuck,
  since all that the first stuck one needs would be done.
-/
theorem Stuck.not_mem_of_inOrder
    (hStuck : Stuck placed pending done stuck)
    {before : List String}
    (hBefore : before ⊆ done)
    (hSubset : ordered ⊆ pending)
    (hInOrder : InOrder before ordered) :
    ∀ plan ∈ ordered, plan ∉ stuck := by
  induction ordered generalizing before with
  | nil => simp
  | cons first rest ih =>
      rcases List.cons_subset.mp hSubset with ⟨hFirst, hRest⟩
      have hReady := isReady_mono hBefore hInOrder.1
      have hFree : first ∉ stuck := by
        intro hMember
        rw [hStuck.notReady first hMember] at hReady
        cases hReady
      have hDone : first.table ∈ done :=
        (hStuck.others first hFirst).resolve_left hFree
      have hOthers :=
        ih (List.cons_subset.mpr ⟨hDone, hBefore⟩) hRest
          hInOrder.2
      exact List.forall_mem_cons.mpr ⟨hFree, hOthers⟩

/- So plans that get stuck have no order. -/
theorem Stuck.not_inOrder
    (hStuck : Stuck placed pending done stuck)
    (hPerm : ordered.Perm pending) :
    ¬ InOrder placed ordered := by
  intro hInOrder
  rcases List.exists_mem_of_ne_nil stuck hStuck.nonempty with
    ⟨plan, hPlan⟩
  have hMember : plan ∈ ordered :=
    hPerm.mem_iff.mpr (hStuck.subset hPlan)
  exact hStuck.not_mem_of_inOrder hStuck.kept hPerm.subset
    hInOrder plan hMember hPlan

end TablePlan

end Relmap

------------------------------------------------------------
-- Least Orders
------------------------------------------------------------

namespace Relmap

namespace TablePlan

variable {placed : List String}
variable {pending ordered : List TablePlan}

/- What is taken is ready, and nothing before it is. -/
theorem exists_append_of_takeReady?
    {plan : TablePlan}
    {others : List TablePlan}
    (hTake :
      takeReady? placed pending = some (plan, others)) :
    ∃ before after,
      pending = before ++ plan :: after ∧
        others = before ++ after ∧
        ∀ earlier ∈ before,
          earlier.isReady placed = false := by
  induction pending generalizing plan others with
  | nil => cases hTake
  | cons first rest ih =>
      rw [takeReady?] at hTake
      by_cases hReady : first.isReady placed = true
      · rw [if_pos hReady] at hTake
        cases hTake
        exact ⟨[], rest, rfl, rfl, by simp⟩
      · rw [if_neg hReady] at hTake
        rcases Option.map_eq_some_iff.mp hTake with
          ⟨⟨found, left⟩, hRest, hPair⟩
        cases hPair
        rcases ih hRest with
          ⟨before, after, rfl, rfl, hBefore⟩
        refine ⟨first :: before, after, rfl, rfl, ?_⟩
        exact List.forall_mem_cons.mpr
          ⟨eq_false_of_ne_true hReady, hBefore⟩

section

variable {ι : Type}
variable [LinearOrder ι]
variable {plan : ι → TablePlan}
variable {places : List ι}

/-
  The first plan of any order has the place that is taken, or
  a later one, as long as the pending ones keep their row.
-/
theorem le_or_eq_of_inOrder
    {before after rest : List ι}
    {place first : ι}
    (hRow : (before ++ place :: after).Pairwise (· < ·))
    (hBefore :
      ∀ earlier ∈ before,
        (plan earlier).isReady placed = false)
    (hReady : (plan first).isReady placed = true)
    (hPerm :
      (first :: rest).Perm (before ++ place :: after)) :
    place < first ∨
      place = first ∧ rest.Perm (before ++ after) := by
  have hMember : first ∈ before ++ place :: after :=
    hPerm.mem_iff.mp List.mem_cons_self
  rcases List.mem_append.mp hMember with hEarlier | hLater
  · rw [hBefore first hEarlier] at hReady
    cases hReady
  · rcases List.mem_cons.mp hLater with rfl | hAfter
    · exact .inr
        ⟨rfl, (hPerm.trans List.perm_middle).cons_inv⟩
    · have hBehind := (List.pairwise_append.mp hRow).2.1
      exact .inl ((List.pairwise_cons.mp hBehind).1 first hAfter)

/-
  Placing the first ready plan again and again gives the
  least order. By induction on the steps: an order that
  begins with another plan begins with one of a later place,
  and any other goes on as an order of the plans that are
  left.
-/
theorem exists_least_of_orderFrom
    (hRow : places.Pairwise (· < ·))
    (hOrder :
      orderFrom placed (places.map plan) = .ok ordered) :
    ∃ least : List ι,
      least.Perm places ∧
        least.map plan = ordered ∧
        ∀ other : List ι,
          other.Perm places →
            InOrder placed (other.map plan) →
              least ≤ other := by
  generalize hPending : places.map plan = pending at hOrder
  fun_induction orderFrom placed pending
    generalizing places ordered with
  | case1 placed pending found others hTake ih =>
      rcases Except.map_eq_ok_iff.mp hOrder with
        ⟨rest, hRest, rfl⟩
      rcases exists_append_of_takeReady? hTake with
        ⟨front, back, rfl, rfl, hFront⟩
      rcases List.map_eq_append_iff.mp hPending with
        ⟨before, behind, rfl, rfl, hBehind⟩
      rcases List.map_eq_cons_iff.mp hBehind with
        ⟨place, after, rfl, rfl, rfl⟩
      have hLeft : (before ++ after).Pairwise (· < ·) :=
        hRow.sublist
          ((List.sublist_cons_self place after).append_left
            before)
      rcases ih hLeft List.map_append hRest with
        ⟨least, hLeast, rfl, hLess⟩
      refine ⟨place :: least, ?_, by rw [List.map_cons], ?_⟩
      · exact (hLeast.cons place).trans List.perm_middle.symm
      · intro other hPerm hInOrder
        cases other with
        | nil => simpa using hPerm.length_eq
        | cons first others =>
            rcases le_or_eq_of_inOrder hRow
                (by simpa using hFront) hInOrder.1 hPerm with
              hLater | ⟨rfl, hOthers⟩
            · have hLess : place :: least < first :: others :=
                .rel hLater
              exact hLess.le
            · exact List.cons_le_cons place
                (hLess others hOthers hInOrder.2)
  | case2 placed pending hTake hEmpty =>
      cases hOrder
      rw [List.isEmpty_iff] at hEmpty
      subst hEmpty
      rw [List.map_eq_nil_iff] at hPending
      subst hPending
      refine ⟨[], List.Perm.refl [], rfl, ?_⟩
      intro other hPerm _
      rw [hPerm.eq_nil]
  | case3 placed pending hTake hEmpty => cases hOrder

end

end TablePlan

end Relmap

------------------------------------------------------------
-- Orders Of Plans
------------------------------------------------------------

namespace Relmap

namespace TablePlan

variable {plans ordered : List TablePlan}

/-
  The places of all plans, each once, in a row that puts the
  plans in order.
-/
structure IsOrderOf
    (plans : List TablePlan)
    (places : List (Fin plans.length)) : Prop where
  perm : places.Perm (List.finRange plans.length)
  ordered : IsOrdered (places.map plans.get)

variable {places : List (Fin plans.length)}

/- The plans at these places are the plans. -/
theorem IsOrderOf.perm_map
    (hPlaces : IsOrderOf plans places) :
    (places.map plans.get).Perm plans := by
  have hAll := hPlaces.perm.map plans.get
  rwa [List.map_get_finRange] at hAll

/- The order that is found is the least one. -/
theorem exists_isLeast_of_order
    (hOrder : order plans = .ok ordered) :
    ∃ places,
      IsLeast {places | IsOrderOf plans places} places ∧
        places.map plans.get = ordered := by
  have hInput :
      (List.finRange plans.length).map plans.get = plans :=
    List.map_get_finRange plans
  have hFrom :
      orderFrom [] ((List.finRange plans.length).map plans.get) =
        .ok ordered := by
    rw [hInput]
    exact hOrder
  rcases exists_least_of_orderFrom
      (List.pairwise_lt_finRange plans.length) hFrom with
    ⟨places, hPerm, hOrdered, hLeast⟩
  have hInOrder := (inOrder_of_orderFrom hOrder).2
  refine ⟨places, ⟨⟨hPerm, ?_⟩, ?_⟩, hOrdered⟩
  · rw [hOrdered]
    exact isOrdered_iff.mpr hInOrder
  · intro other hOther
    exact hLeast other hOther.perm
      (isOrdered_iff.mp hOther.ordered)

/- Plans that can be ordered in some way are ordered. -/
theorem exists_order_eq_ok
    (hPerm : ordered.Perm plans)
    (hOrdered : IsOrdered ordered) :
    ∃ found, order plans = .ok found := by
  cases hOrder : order plans with
  | ok found => exact ⟨found, rfl⟩
  | error fault =>
      rcases exists_stuck_of_orderFrom hOrder with
        ⟨_, done, stuck, hStuck⟩
      exact absurd (isOrdered_iff.mp hOrdered)
        (hStuck.not_inOrder hPerm)

/-
  Plans are put into the least order that they have, whatever
  tables they are for and reference. So an order that is
  found has the same plans, each behind what it references,
  it stays when it is ordered again, and so do plans that
  were in order before. The only fault is that there is no
  order.
-/
theorem order_isLeast (plans : List TablePlan) :
    (∀ ordered,
        order plans = .ok ordered ↔
          ∃ places,
            IsLeast {places | IsOrderOf plans places} places ∧
              places.map plans.get = ordered) ∧
      (∀ ordered,
        order plans = .ok ordered →
          ordered.Perm plans ∧
            IsOrdered ordered ∧
            order ordered = .ok ordered) ∧
      (IsOrdered plans → order plans = .ok plans) ∧
      ∀ fault,
        order plans = .error fault ↔
          fault = .cyclicReferences ∧
            ∀ ordered : List TablePlan,
              ordered.Perm plans → ¬ IsOrdered ordered := by
  refine ⟨?_, ?_, ?_, ?_⟩
  · intro ordered
    refine ⟨exists_isLeast_of_order, ?_⟩
    rintro ⟨places, hLeast, rfl⟩
    have hPlaces : IsOrderOf plans places := hLeast.1
    rcases exists_order_eq_ok hPlaces.perm_map
        hPlaces.ordered with
      ⟨found, hFound⟩
    rcases exists_isLeast_of_order hFound with
      ⟨others, hOthers, rfl⟩
    rw [hFound, hOthers.unique hLeast]
  · intro ordered hOrder
    rcases inOrder_of_orderFrom hOrder with
      ⟨hPerm, hInOrder⟩
    exact ⟨hPerm, isOrdered_iff.mpr hInOrder,
      orderFrom_of_inOrder hInOrder⟩
  · intro hOrdered
    exact orderFrom_of_inOrder (isOrdered_iff.mp hOrdered)
  · intro fault
    constructor
    · intro hFault
      rcases exists_stuck_of_orderFrom hFault with
        ⟨hCyclic, done, stuck, hStuck⟩
      refine ⟨hCyclic, ?_⟩
      intro ordered hPerm hOrdered
      exact hStuck.not_inOrder hPerm
        (isOrdered_iff.mp hOrdered)
    · rintro ⟨rfl, hNone⟩
      cases hOrder : order plans with
      | ok found =>
          rcases inOrder_of_orderFrom hOrder with
            ⟨hPerm, hInOrder⟩
          exact absurd (isOrdered_iff.mpr hInOrder)
            (hNone found hPerm)
      | error other =>
          rw [(exists_stuck_of_orderFrom hOrder).1]

/-
  Sales reference books, books reference their authors and
  other books, and authors are planned twice.
-/
private def bookshop : List TablePlan :=
  [{ table := "sale", model := "Sale",
     references := ["book"] },
    { table := "book", model := "Book",
      references := ["author", "book"] },
    { table := "author", model := "Author" },
    { table := "author", model := "Writer" }]

/- Each takes its turn as soon as it can, if it ever can. -/
theorem order_isLeast_bookshop :
    (∃ ordered places,
      IsLeast {places | IsOrderOf bookshop places} places ∧
        places.map bookshop.get = ordered ∧
        ordered.map TablePlan.model =
          ["Author", "Book", "Sale", "Writer"] ∧
        IsOrdered ordered ∧
        order ordered = .ok ordered) ∧
      ∀ ordered : List TablePlan,
        ordered.Perm (bookshop.take 2) →
          ¬ IsOrdered ordered := by
  constructor
  · rcases Except.exists_of_any
        (show (order bookshop).toOption.any
            (fun ordered =>
              ordered.map TablePlan.model =
                ["Author", "Book", "Sale", "Writer"]) = true by
          decide +kernel) with
      ⟨ordered, hOrder, hModels⟩
    rcases ((order_isLeast bookshop).1 ordered).mp hOrder with
      ⟨places, hLeast, hPlaces⟩
    rcases (order_isLeast bookshop).2.1 ordered hOrder with
      ⟨_, hOrdered, hAgain⟩
    exact ⟨ordered, places, hLeast, hPlaces,
      of_decide_eq_true hModels, hOrdered, hAgain⟩
  · have hFault :
        order (bookshop.take 2) = .error .cyclicReferences := by
      decide +kernel
    exact (((order_isLeast (bookshop.take 2)).2.2.2 _).mp
      hFault).2

end TablePlan

end Relmap
