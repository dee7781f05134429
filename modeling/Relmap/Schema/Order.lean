import Relmap.Schema.Plan

/-
  The order of creation: every table comes after the tables
  that it references, itself excepted.

  Plans are placed one at a time, always the first that is
  ready. If none is ready the references run in a circle or
  lead out of the schema.

  Key definitions include:
    * `TablePlan.isReady`
    * `TablePlan.takeReady?`
    * `TablePlan.order`
-/

------------------------------------------------------------
-- Ready Plans
------------------------------------------------------------

namespace Relmap

namespace TablePlan

/- All references of a plan are placed or to itself. -/
def isReady
    (placed : List String)
    (plan : TablePlan) : Bool :=
  plan.references.all fun table =>
    table = plan.table || placed.contains table

/- The first ready plan and all the others in order. -/
def takeReady?
    (placed : List String) :
    List TablePlan → Option (TablePlan × List TablePlan)
  | [] => none
  | plan :: rest =>
      if plan.isReady placed then some (plan, rest)
      else
        (takeReady? placed rest).map fun (found, others) =>
          (found, plan :: others)

/- Taking a plan leaves one plan less. -/
theorem takeReady?_length
    {placed : List String}
    {pending : List TablePlan}
    {plan : TablePlan}
    {others : List TablePlan}
    (hTake :
      takeReady? placed pending = some (plan, others)) :
    others.length < pending.length := by
  induction pending generalizing plan others with
  | nil => simp [takeReady?] at hTake
  | cons first rest ih =>
      unfold takeReady? at hTake
      split at hTake
      · simp only [Option.some.injEq, Prod.mk.injEq] at hTake
        simp [← hTake.2]
      · simp only [Option.map_eq_some_iff, Prod.exists,
          Prod.mk.injEq] at hTake
        obtain ⟨found, left, hRest, _, hOthers⟩ := hTake
        have hLess := ih hRest
        simp only [← hOthers, List.length_cons]
        omega

end TablePlan

end Relmap

------------------------------------------------------------
-- Order
------------------------------------------------------------

namespace Relmap

namespace TablePlan

/- Order pending plans after those already placed. -/
def orderFrom
    (placed : List String)
    (pending : List TablePlan) :
    Except Error (List TablePlan) :=
  match _hTake : takeReady? placed pending with
  | some (plan, others) =>
      (orderFrom (plan.table :: placed) others).map (plan :: ·)
  | none =>
      if pending.isEmpty then .ok []
      else .error .cyclicReferences
  termination_by pending.length
  decreasing_by exact takeReady?_length _hTake

/- Order plans so that referenced tables come first. -/
def order
    (plans : List TablePlan) :
    Except Error (List TablePlan) :=
  orderFrom [] plans

end TablePlan

end Relmap

------------------------------------------------------------
-- Schemas
------------------------------------------------------------

namespace Relmap

namespace Planner

/-
  The tables of a schema in the order of creation, link
  tables last.
-/
def tables
    (planner : Planner) :
    Except Error (List TableDefinition) := do
  let ordered ← TablePlan.order (← planner.plans)
  return ordered.map TablePlan.definition ++
    ordered.flatMap TablePlan.links

/- The statements that create a schema. -/
def schemaSql
    (planner : Planner) : Except Error String := do
  let tables ← planner.tables
  return "\n".intercalate
    (tables.map
      (TableDefinition.sql planner.dialect planner.config))

end Planner

end Relmap
