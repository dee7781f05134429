import Relmap.Proofs.Schema.Assembly
import Relmap.Proofs.Schema.Order

/-
  A schema is created in an order that its foreign keys
  allow.

  The text of a schema is that of its tables, one for each
  model, and of its link tables. Every table stands after the
  tables that its foreign keys are to, and link tables come
  last. There is no such order exactly if references run in
  a circle.

  Main declarations:
    * `Planner.exists_layouts_of_plans`
    * `Planner.Creates`
    * `Planner.schemaSql_creates`
-/

------------------------------------------------------------
-- Plans Of A Catalog
------------------------------------------------------------

namespace Relmap

namespace Planner

variable {planner : Planner}
variable {style : Style}
variable {plans : List TablePlan}
variable {layouts : List ModelLayout}

/- The plans of a catalog are written as layouts of models. -/
theorem exists_layouts_of_plans
    (hDialect : planner.dialect = style.dialect)
    (hPlans : planner.plans = .ok plans) :
    ∃ layouts,
      List.Forall₂ (planner.IsModelLayoutOf style)
          planner.catalog.models layouts ∧
        List.Forall₂ (planner.WritesPlan style) layouts
          plans := by
  rw [Planner.plans, List.mapM_eq_ok_iff] at hPlans
  apply List.Forall₂.exists_between
  exact hPlans.imp fun _ _ hPlan =>
    exists_modelLayout_of_tablePlan hDialect hPlan

/- In another order, those of the models in that order. -/
theorem exists_layouts_of_perm
    (hDialect : planner.dialect = style.dialect)
    (hPlans : planner.plans = .ok plans)
    {placed : List TablePlan}
    (hPerm : placed.Perm plans) :
    ∃ ordered layouts,
      ordered.Perm planner.catalog.models ∧
        List.Forall₂ (planner.IsModelLayoutOf style) ordered
          layouts ∧
        List.Forall₂ (planner.WritesPlan style) layouts
          placed := by
  rcases exists_layouts_of_plans hDialect hPlans with
    ⟨layouts, hLayouts, hWrites⟩
  rcases List.perm_comp_forall₂ hPerm hWrites.flip with
    ⟨placedLayouts, hPlaced, hPermLayouts⟩
  rcases List.perm_comp_forall₂ hPermLayouts hLayouts.flip with
    ⟨ordered, hOrdered, hModels⟩
  exact ⟨ordered, placedLayouts, hModels, hOrdered.flip,
    hPlaced.flip⟩

/- Tables are named as those of their models. -/
theorem map_name_of_layouts
    {models : List Model}
    (hLayouts :
      List.Forall₂ (planner.IsModelLayoutOf style) models
        layouts) :
    layouts.map (fun layout => layout.table.name) =
      models.map Model.table :=
  hLayouts.map_eq fun _ _ hLayout => hLayout.isTable.name

theorem map_table_of_writesPlan
    (hPlans :
      List.Forall₂ (planner.WritesPlan style) layouts plans) :
    plans.map TablePlan.table =
      layouts.map fun layout => layout.table.name :=
  hPlans.map_eq fun _ _ hPlan => hPlan.table

/- Plans of a catalog reference planned tables only. -/
theorem isClosed_of_layouts
    (hLayouts :
      List.Forall₂ (planner.IsModelLayoutOf style)
        planner.catalog.models layouts)
    (hPlans :
      List.Forall₂ (planner.WritesPlan style) layouts plans) :
    TablePlan.IsClosed plans := by
  intro plan hPlan table hTable
  rcases hPlans.exists_of_mem_right hPlan with
    ⟨layout, hLayout, hWrites⟩
  rcases (hWrites.recorded table).mp hTable with
    ⟨key, hKey, rfl⟩
  rcases hLayouts.exists_of_mem_right hLayout with
    ⟨model, _, hIsLayout⟩
  rcases hIsLayout.isTable.exists_model hKey with
    ⟨target, hTarget, hSame⟩
  rw [hSame, ← List.mem_map, map_table_of_writesPlan hPlans,
    map_name_of_layouts hLayouts]
  exact List.mem_map_of_mem hTarget

end Planner

end Relmap

------------------------------------------------------------
-- Orders Of Creation
------------------------------------------------------------

namespace Relmap

namespace Planner

/-
  Tables of models in some order, and link tables behind
  them, such that the foreign keys of each table are to
  itself or to tables before it, and those of each link table
  to some of the tables.
-/
structure Creates
    (planner : Planner)
    (style : Style)
    (ordered : List Model)
    (tables : List TableLayout)
    (links : List TableLayout) : Prop where
  eachModel : ordered.Perm planner.catalog.models
  eachTable :
    List.Forall₂ (planner.IsLayoutOf style) ordered tables
  eachLink :
    List.Forall₂
      (fun owner =>
        planner.IsLinkLayoutOf style owner.1 owner.2)
      (ordered.flatMap fun model =>
        (ownedLinks model).map fun owned => (model, owned))
      links
  tablesInOrder :
    ∀ before table after, tables = before ++ table :: after →
      ∀ key ∈ table.keys,
        key.table = table.name ∨
          ∃ other ∈ before, other.name = key.table
  linksInOrder :
    ∀ link ∈ links, ∀ key ∈ link.keys,
      ∃ other ∈ tables, other.name = key.table

variable {planner : Planner}
variable {style : Style}
variable {plans : List TablePlan}
variable {ordered : List Model}
variable {layouts : List ModelLayout}

/-
  Plans in order are tables in order: what a foreign key is
  to is the table itself, or placed, or a table before it.
-/
theorem table_of_inOrder
    {placed : List String}
    {before after : List ModelLayout}
    {layout : ModelLayout}
    (hPlans :
      List.Forall₂ (planner.WritesPlan style)
        (before ++ layout :: after) plans)
    (hInOrder : TablePlan.InOrder placed plans)
    {key : KeyLayout}
    (hKey : key ∈ layout.table.keys) :
    key.table = layout.table.name ∨ key.table ∈ placed ∨
      ∃ other ∈ before, other.table.name = key.table := by
  induction before generalizing placed plans with
  | nil =>
      cases hPlans with
      | cons hPlan _ =>
          have hRecorded :=
            (hPlan.recorded key.table).mpr ⟨key, hKey, rfl⟩
          rcases TablePlan.isReady_iff.mp hInOrder.1 _
              hRecorded with
            hOwn | hPlaced
          · exact .inl (hOwn.trans hPlan.table)
          · exact .inr (.inl hPlaced)
  | cons first before ih =>
      cases hPlans with
      | cons hFirst hRest =>
          rcases ih hRest hInOrder.2 with
            hOwn | hPlaced | ⟨other, hOther, hSame⟩
          · exact .inl hOwn
          · rcases List.mem_cons.mp hPlaced with
              hSame | hPlaced
            · exact .inr (.inr ⟨first, List.mem_cons_self,
                (hSame.trans hFirst.table).symm⟩)
            · exact .inr (.inl hPlaced)
          · exact .inr (.inr ⟨other,
              List.mem_cons_of_mem _ hOther, hSame⟩)

/- The link tables of layouts are those of their models. -/
theorem links_of_layouts
    (hLayouts :
      List.Forall₂ (planner.IsModelLayoutOf style) ordered
        layouts) :
    List.Forall₂
      (fun owner =>
        planner.IsLinkLayoutOf style owner.1 owner.2)
      (ordered.flatMap fun model =>
        (ownedLinks model).map fun owned => (model, owned))
      (layouts.flatMap ModelLayout.links) := by
  apply List.rel_flatMap hLayouts
  intro model layout hLayout
  rw [List.forall₂_map_left_iff]
  exact hLayout.areLinks

/- Ordered plans of a catalog create its schema. -/
theorem creates_of_inOrder
    (hModels : ordered.Perm planner.catalog.models)
    (hLayouts :
      List.Forall₂ (planner.IsModelLayoutOf style) ordered
        layouts)
    (hPlans :
      List.Forall₂ (planner.WritesPlan style) layouts plans)
    (hInOrder : TablePlan.InOrder [] plans) :
    planner.Creates style ordered
      (layouts.map ModelLayout.table)
      (layouts.flatMap ModelLayout.links) := by
  have hLinks := links_of_layouts hLayouts
  constructor
  · exact hModels
  · rw [List.forall₂_map_right_iff]
    exact hLayouts.imp fun _ _ hLayout => hLayout.isTable
  · exact hLinks
  · intro before table after hTables key hKey
    rcases List.map_eq_append_iff.mp hTables with
      ⟨earlier, rest, rfl, rfl, hRest⟩
    rcases List.map_eq_cons_iff.mp hRest with
      ⟨layout, later, rfl, rfl, rfl⟩
    rcases table_of_inOrder hPlans hInOrder hKey with
      hOwn | hNone | ⟨other, hOther, hSame⟩
    · exact .inl hOwn
    · cases hNone
    · exact .inr
        ⟨other.table, List.mem_map_of_mem hOther, hSame⟩
  · intro link hLink key hKey
    rcases hLinks.exists_of_mem_right hLink with
      ⟨owner, hOwner, hIsLink⟩
    rcases List.mem_flatMap.mp hOwner with
      ⟨model, hModel, hOwned⟩
    rcases List.mem_map.mp hOwned with ⟨owned, _, rfl⟩
    rcases
        hIsLink.exists_model (hModels.mem_iff.mp hModel)
          hKey with
      ⟨target, hTarget, hSame⟩
    rcases
        hLayouts.exists_of_mem_left
          (hModels.mem_iff.mpr hTarget) with
      ⟨layout, hLayout, hIsLayout⟩
    refine ⟨layout.table, List.mem_map_of_mem hLayout, ?_⟩
    rw [hIsLayout.isTable.name, hSame]

end Planner

end Relmap

------------------------------------------------------------
-- Schemas
------------------------------------------------------------

namespace Relmap

namespace Planner

variable {planner : Planner}
variable {style : Style}
variable {plans : List TablePlan}

/- Once all tables are planned only their order can fail. -/
theorem schemaSql_of_plans
    (hPlans : planner.plans = .ok plans) :
    planner.schemaSql =
      (TablePlan.order plans).map fun placed =>
        "\n".intercalate
          ((placed.map TablePlan.definition ++
              placed.flatMap TablePlan.links).map
            (TableDefinition.sql planner.dialect
              planner.config)) := by
  unfold schemaSql tables
  rw [hPlans]
  cases hOrder : TablePlan.order plans with
  | error fault => simp [bind, Except.bind, Except.map, hOrder]
  | ok placed =>
      simp [bind, Except.bind, Except.map, pure, Except.pure,
        hOrder]

/- No schema is created unless all tables are planned. -/
theorem exists_plans_of_schemaSql
    {text : String}
    (hText : planner.schemaSql = .ok text) :
    ∃ plans, planner.plans = .ok plans := by
  simp only [schemaSql, tables, Except.bind_eq_ok_iff]
    at hText
  rcases hText with ⟨_, ⟨plans, hPlans, _⟩, _⟩
  exact ⟨plans, hPlans⟩

/- The texts of plans are those of their layouts. -/
theorem map_sql_of_writesPlan
    {layouts : List ModelLayout}
    (hPlans :
      List.Forall₂ (planner.WritesPlan style) layouts plans) :
    (plans.map TablePlan.definition ++
        plans.flatMap TablePlan.links).map
        (TableDefinition.sql planner.dialect planner.config) =
      (layouts.map ModelLayout.table ++
        layouts.flatMap ModelLayout.links).map
        (TableLayout.sql style planner.config) := by
  have hWrites :
      List.Forall₂ (planner.Writes style)
        (layouts.map ModelLayout.table ++
          layouts.flatMap ModelLayout.links)
        (plans.map TablePlan.definition ++
          plans.flatMap TablePlan.links) := by
    apply List.rel_append
    · rw [List.forall₂_map_left_iff, List.forall₂_map_right_iff]
      exact hPlans.imp fun _ _ hPlan => hPlan.definition
    · exact List.rel_flatMap hPlans fun _ _ hPlan => hPlan.links
  exact hWrites.map_eq fun _ _ hTable => hTable.sql

/-
  The text of a schema creates every table and every link
  table once, none before what its foreign keys are to. Once
  all tables are planned and they are distinct, creation
  fails exactly if the references of the plans run in a
  circle, and these are the foreign keys of their texts.
-/
theorem schemaSql_creates
    (hDialect : planner.dialect = style.dialect) :
    (∀ text, planner.schemaSql = .ok text →
      ∃ ordered tables links,
        planner.Creates style ordered tables links ∧
          text =
            "\n".intercalate
              ((tables ++ links).map
                (TableLayout.sql style planner.config))) ∧
    ∀ plans, planner.plans = .ok plans →
      (planner.catalog.models.map Model.table).Nodup →
        (∃ layouts,
          List.Forall₂ (planner.IsModelLayoutOf style)
              planner.catalog.models layouts ∧
            List.Forall₂ (planner.WritesPlan style) layouts
              plans) ∧
          ∀ fault,
            planner.schemaSql = .error fault ↔
              fault = .cyclicReferences ∧
                TablePlan.HasCycle plans := by
  constructor
  · intro text hText
    rcases exists_plans_of_schemaSql hText with ⟨plans, hPlans⟩
    rw [schemaSql_of_plans hPlans] at hText
    rcases Except.map_eq_ok_iff.mp hText with
      ⟨placed, hOrder, rfl⟩
    rcases TablePlan.inOrder_of_orderFrom hOrder with
      ⟨hPerm, hInOrder⟩
    rcases exists_layouts_of_perm hDialect hPlans hPerm with
      ⟨ordered, layouts, hModels, hLayouts, hWrites⟩
    refine ⟨ordered, _, _,
      creates_of_inOrder hModels hLayouts hWrites hInOrder, ?_⟩
    rw [map_sql_of_writesPlan hWrites]
  · intro plans hPlans hTables
    rcases exists_layouts_of_plans hDialect hPlans with
      ⟨layouts, hLayouts, hWrites⟩
    refine ⟨⟨layouts, hLayouts, hWrites⟩, ?_⟩
    intro fault
    have hNodup : (plans.map TablePlan.table).Nodup := by
      rw [map_table_of_writesPlan hWrites,
        map_name_of_layouts hLayouts]
      exact hTables
    have hClosed := isClosed_of_layouts hLayouts hWrites
    rw [← TablePlan.order_eq_error_iff hNodup hClosed]
    rw [schemaSql_of_plans hPlans]
    cases TablePlan.order plans with
    | error other => simp [Except.map]
    | ok placed => simp [Except.map]

/- A model with a key, the next of its kind, and links. -/
private def related
    (name : String)
    (target : String)
    (links : List Relation) : Model :=
  { name := name
    table := name
    fields :=
      [.keyOfType "id" (.named FieldType.intName),
        { Field.ofType "next_id" (.named FieldType.intName) with
          reference := some "next" }]
    relations := .toOne "next" target :: links }

/- Two books of a series, the later one named first. -/
private def series : Planner :=
  { catalog :=
      ⟨[related "sequel" "novel"
          [((Relation.toMany "fans" "novel").withThrough
            "fan").withKeys "sequel_id" "novel_id"],
        related "novel" "novel" []]⟩
    dialect := .sqlite }

/- Two books that continue each other. -/
private def loop : Planner :=
  { catalog :=
      ⟨[related "sequel" "novel" [],
        related "novel" "sequel" []]⟩
    dialect := .postgres }

/- The text of a series: the novel, its sequel and the fans. -/
private def seriesText : String :=
  "\n".intercalate
    ["CREATE TABLE IF NOT EXISTS \"novel\" (",
      "    \"id\" INTEGER PRIMARY KEY AUTOINCREMENT NOT NULL,",
      "    \"next_id\" INT NOT NULL REFERENCES " ++
        "\"novel\" (\"id\") ON DELETE CASCADE",
      ");",
      "CREATE TABLE IF NOT EXISTS \"sequel\" (",
      "    \"id\" INTEGER PRIMARY KEY AUTOINCREMENT NOT NULL,",
      "    \"next_id\" INT NOT NULL REFERENCES " ++
        "\"novel\" (\"id\") ON DELETE CASCADE",
      ");",
      "CREATE TABLE IF NOT EXISTS \"fan\" (",
      "    \"sequel_id\" INT NOT NULL REFERENCES " ++
        "\"sequel\" (\"id\") ON DELETE CASCADE,",
      "    \"novel_id\" INT NOT NULL REFERENCES " ++
        "\"novel\" (\"id\") ON DELETE CASCADE",
      ");"]

/- A series is created, but not if it has no first book. -/
theorem schemaSql_creates_series :
    (∃ ordered tables links,
      series.Creates .sqlite ordered tables links ∧
        "\n".intercalate
            ((tables ++ links).map
              (TableLayout.sql .sqlite {})) =
          seriesText) ∧
      loop.schemaSql = .error .cyclicReferences := by
  constructor
  · have hDialect : series.dialect = Style.sqlite.dialect := rfl
    have hAny :
        series.schemaSql.toOption.any
          (fun text => text = seriesText) = true := by
      decide +kernel
    rcases Except.exists_of_any hAny with ⟨text, hText, hSame⟩
    rcases (schemaSql_creates hDialect).1 text hText with
      ⟨ordered, tables, links, hCreates, rfl⟩
    exact ⟨ordered, tables, links, hCreates,
      of_decide_eq_true hSame⟩
  · have hDialect : loop.dialect = Style.postgres.dialect :=
      rfl
    obtain ⟨plans, hPlans, hForth, hBack⟩ :
        ∃ plans, loop.plans = .ok plans ∧
          (∃ plan ∈ plans,
            plan.table = "sequel" ∧
              "novel" ∈ plan.references ∧
                "novel" ≠ "sequel") ∧
          ∃ plan ∈ plans,
            plan.table = "novel" ∧
              "sequel" ∈ plan.references ∧
                "sequel" ≠ "novel" := by
      refine ⟨_, rfl, ?_, ?_⟩ <;> decide +kernel
    have hCycle : TablePlan.HasCycle plans :=
      ⟨"sequel", .tail (.single hForth) hBack⟩
    have hLoop :=
      (schemaSql_creates hDialect).2 plans hPlans (by decide)
    exact (hLoop.2 .cyclicReferences).mpr ⟨rfl, hCycle⟩

end Planner

end Relmap
