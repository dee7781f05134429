import Relmap.Proofs.Outcome
import Relmap.Query.Resolve

/-
  Which kinds of faults the steps of a resolution can have.

  Comparisons complain about their operands, relations and
  keys about the catalog. Only a key that names nothing is a
  fault of the kind that filters are mended by.

  Main declarations:
    * `Lookup.criterion_lacks`
    * `Catalog.relationJoins_lacks`
    * `Context.resolveCustom_lacks`
    * `Context.resolveDirect_lacks`
    * `FilterTree.resolve_lacks`
-/

------------------------------------------------------------
-- Faults Of Comparisons
------------------------------------------------------------

namespace Relmap

open Except

variable {kind : ErrorKind}

namespace Lookup

/- Comparisons complain about nothing but operands. -/
theorem criterion_lacks
    (hKind : kind ≠ .operational)
    (lookup : Lookup)
    (term : Term)
    (value : Value) :
    Lacks kind (lookup.criterion term value) := by
  have hList :
      Lacks kind (lookup.listOperand value) := by
    unfold listOperand
    split
    · exact lacks_ok _
    · exact lacks_error hKind.symm
  have hBool :
      Lacks kind (lookup.boolOperand value) := by
    unfold boolOperand
    split
    · exact lacks_ok _
    · exact lacks_error hKind.symm
  cases lookup with
  | isIn => exact lacks_bind hList fun _ _ => lacks_ok _
  | notIn => exact lacks_bind hList fun _ _ => lacks_ok _
  | range =>
      apply lacks_bind hList
      intro bounds _
      split
      · exact lacks_ok _
      · exact lacks_error hKind.symm
  | isNull => exact lacks_bind hBool fun _ _ => lacks_ok _
  | notIsNull =>
      exact lacks_bind hBool fun _ _ => lacks_ok _
  | _ => exact lacks_ok _

end Lookup

end Relmap

------------------------------------------------------------
-- Faults Of Catalogs
------------------------------------------------------------

namespace Relmap

open Except

variable {kind : ErrorKind}

namespace Model

theorem keyColumn_lacks
    (hKind : kind ≠ .configuration)
    (model : Model) :
    Lacks kind model.keyColumn := by
  apply Lacks.map
  unfold primaryKey
  split
  · exact lacks_ok _
  · exact lacks_error hKind.symm

theorem columnOf_lacks
    (hKind : kind ≠ .configuration)
    (model : Model)
    (field : String) :
    Lacks kind (model.columnOf field) := by
  unfold columnOf
  split
  · exact lacks_ok _
  · exact lacks_error hKind.symm

end Model

namespace Catalog

theorem require_lacks
    (hKind : kind ≠ .configuration)
    (catalog : Catalog)
    (name : String) :
    Lacks kind (catalog.require name) := by
  unfold require
  split
  · exact lacks_ok _
  · exact lacks_error hKind.symm

/- Relations complain about nothing but the catalog. -/
theorem relationJoins_lacks
    (hKind : kind ≠ .configuration)
    (catalog : Catalog)
    (origin : Model)
    (relation : Relation) :
    Lacks kind (catalog.relationJoins origin relation) := by
  apply lacks_bind (catalog.require_lacks hKind _)
  intro target _
  split
  · apply lacks_bind (origin.columnOf_lacks hKind _)
    intro column _
    exact lacks_bind (target.keyColumn_lacks hKind)
      fun _ _ => lacks_ok _
  · apply lacks_bind (target.columnOf_lacks hKind _)
    intro column _
    exact lacks_bind (origin.keyColumn_lacks hKind)
      fun _ _ => lacks_ok _
  · apply lacks_bind (origin.keyColumn_lacks hKind)
    intro column _
    exact lacks_bind (target.keyColumn_lacks hKind)
      fun _ _ => lacks_ok _

end Catalog

end Relmap

------------------------------------------------------------
-- Faults Of Filters
------------------------------------------------------------

namespace Relmap

open Except

variable {kind : ErrorKind}

namespace Computed

theorem fieldTerm_lacks
    (hKind : kind ≠ .operational)
    (model : Model)
    (field : String) :
    Lacks kind (fieldTerm model field) := by
  unfold fieldTerm
  split
  · exact lacks_ok _
  · exact lacks_error hKind.symm

/- Computed columns complain about names and the catalog. -/
theorem resolve_lacks
    (hOperational : kind ≠ .operational)
    (hConfiguration : kind ≠ .configuration)
    (catalog : Catalog)
    (model : Model)
    (computed : Computed) :
    Lacks kind (computed.resolve catalog model) := by
  have hTerm := fieldTerm_lacks hOperational model
  unfold resolve
  split
  · exact lacks_bind (hTerm _) fun _ _ => lacks_ok _
  · split
    · exact lacks_ok _
    · split
      · rename_i relation _
        apply lacks_bind (catalog.require_lacks hConfiguration _)
        intro target _
        apply lacks_bind
          (catalog.relationJoins_lacks hConfiguration
            model relation)
        intro joins _
        exact lacks_bind (target.keyColumn_lacks hConfiguration)
          fun _ _ => lacks_ok _
      · exact lacks_bind (hTerm _) fun _ _ => lacks_ok _

end Computed

namespace Context

variable {context : Context}
variable {model : Model}

/- So do custom filters, which compare them. -/
theorem resolveCustom_lacks
    (hOperational : kind ≠ .operational)
    (hConfiguration : kind ≠ .configuration)
    (filter : CustomFilter)
    (value : Value) :
    Lacks kind (context.resolveCustom model filter value) := by
  unfold resolveCustom
  split
  · exact lacks_error hOperational.symm
  · apply lacks_bind
      (Computed.resolve_lacks hOperational hConfiguration
        _ _ _)
    intro resolved _
    apply lacks_bind
      (Lookup.criterion_lacks hOperational _ _ _)
    intro criterion _
    split
    · exact lacks_ok _
    · exact lacks_ok _

/- A registered key has something to compare. -/
theorem directTarget_eq_ok
    {key : String}
    (hTarget :
      (context.catalog.filterTarget? model key).isSome = true)
    (value : Value) :
    ∃ pair,
      context.directTarget model key value = .ok pair := by
  rcases Option.isSome_iff_exists.mp hTarget with
    ⟨target, hFound⟩
  unfold directTarget
  dsimp only
  split
  · exact ⟨_, rfl⟩
  · rw [hFound]
    exact ⟨_, rfl⟩

/- It complains about its operand and the catalog only. -/
theorem resolveDirect_lacks
    (hOperational : kind ≠ .operational)
    (hConfiguration : kind ≠ .configuration)
    {key : String}
    (hTarget :
      (context.catalog.filterTarget? model key).isSome = true)
    (value : Value) :
    Lacks kind (context.resolveDirect model key value) := by
  rcases directTarget_eq_ok hTarget value with ⟨pair, hPair⟩
  unfold resolveDirect
  rw [hPair]
  apply lacks_bind (lacks_ok pair)
  intro pair _
  apply lacks_bind
  · unfold targetJoins
    split
    · exact lacks_ok _
    · exact lacks_bind (model.keyColumn_lacks hConfiguration)
        fun _ _ => lacks_ok _
  · intro joins _
    exact lacks_bind
      (Lookup.criterion_lacks hOperational _ _ _)
      fun _ _ => lacks_ok _

end Context

end Relmap

------------------------------------------------------------
-- Faults Of Trees
------------------------------------------------------------

namespace Relmap

open Except

namespace FilterTree

variable {kind : ErrorKind}
variable {context : Context}
variable {model : Model}

/- Constraints complain as their keys do. -/
theorem resolveConstraints_lacks
    (hKeys :
      ∀ key value,
        Lacks kind (context.resolveKey model key value))
    (joinType : JoinType)
    (before : Modifier)
    (constraints : List Constraint) :
    Lacks kind
      (resolveConstraints context model joinType before
        constraints) := by
  induction constraints generalizing before with
  | nil => exact lacks_ok before
  | cons entry rest ih =>
      rcases entry with ⟨key, value⟩
      exact lacks_bind (hKeys key value) fun part _ => ih _

mutual

/- So do trees, by induction on the nodes. -/
theorem resolve_lacks
    (hKeys :
      ∀ key value,
        Lacks kind (context.resolveKey model key value)) :
    ∀ tree : FilterTree,
      Lacks kind (tree.resolve context model)
  | ⟨children, constraints, joinType, negated, wraps⟩ => by
      unfold resolve
      dsimp only
      split
      · exact lacks_bind
          (resolveChildren_lacks hKeys joinType .none children)
          fun _ _ => lacks_ok _
      · exact lacks_bind
          (resolveConstraints_lacks hKeys joinType .none
            constraints)
          fun _ _ => lacks_ok _

theorem resolveChildren_lacks
    (hKeys :
      ∀ key value,
        Lacks kind (context.resolveKey model key value)) :
    ∀ (joinType : JoinType) (before : Modifier)
      (children : List FilterTree),
      Lacks kind
        (resolveChildren context model joinType before
          children)
  | _, before, [] => by
      unfold resolveChildren
      exact lacks_ok before
  | joinType, before, child :: rest => by
      unfold resolveChildren
      apply lacks_bind (resolve_lacks hKeys child)
      intro part _
      exact resolveChildren_lacks hKeys joinType _ rest

end

end FilterTree

end Relmap
