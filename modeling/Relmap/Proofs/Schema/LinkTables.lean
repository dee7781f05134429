import Relmap.Proofs.Catalog.Extension
import Relmap.Proofs.Schema.Order
import Relmap.Schema.Sqlite

/-
  Which tables a schema creates.

  There is one for each model, and one for each link of which
  a side owns the table: the relation that declares the link,
  or else the reverse that this names. A link table that is
  not named is named after the two tables that it connects,
  so links that connect the same tables share its name.

  Main declarations:
    * `Catalog.ownedTables`
    * `Catalog.linkEnds`
    * `Catalog.linkName`
    * `Catalog.perm_ownedTables_of_link`
    * `Planner.perm_tables`
    * `Planner.CreatesTable`
    * `Planner.tables_of_link`
-/

------------------------------------------------------------
-- Link Tables Of Declarations
------------------------------------------------------------

namespace Relmap

/- The link table that a relation owns. -/
def Relation.ownedTable?
    (relation : Relation) : Option String :=
  (Planner.ownedLink? relation).map ManyToMany.through

/- One of both sides of a link will own its table. -/
def ManyToMany.isCreated (link : ManyToMany) : Bool :=
  link.ownsThrough || link.relatedName.isSome

/- The link table that a relation or its reverse owns. -/
def Relation.createdTable?
    (relation : Relation) : Option String :=
  (relation.manyToMany?.filter ManyToMany.isCreated).map
    ManyToMany.through

namespace Catalog

/- The link tables that the relations of a catalog own. -/
def ownedTables (catalog : Catalog) : List String :=
  catalog.models.flatMap fun model =>
    model.relations.filterMap Relation.ownedTable?

/-
  The tables that a declared relation connects, if it is a
  link of which one of both sides will own the table.
-/
def linkEnds?
    (models : List Model)
    (model : Model)
    (relation : Relation) : Option (String × String) :=
  match relation.kind with
  | .manyToMany link =>
      if link.isCreated then
        (model? ⟨models⟩ relation.target).map fun target =>
          (model.tableName, target.tableName)
      else none
  | _ => none

/- The tables that the links of declarations connect. -/
def linkEnds (models : List Model) : List (String × String) :=
  models.flatMap fun model =>
    model.relations.filterMap (linkEnds? models model)

/- The name of a link table that is left open. -/
def linkName (ends : String × String) : String :=
  ends.1 ++ "_" ++ ends.2

/- The declarations leave the names of link tables open. -/
def LeavesThroughOpen (models : List Model) : Prop :=
  ∀ model ∈ models, ∀ relation ∈ model.relations,
    ∀ link ∈ relation.manyToMany?, link.through = ""

instance
    (models : List Model) :
    Decidable (LeavesThroughOpen models) := by
  unfold LeavesThroughOpen
  infer_instance

end Catalog

end Relmap

------------------------------------------------------------
-- Owners Of Links
------------------------------------------------------------

namespace Relmap

namespace Catalog

/- Items are all found under the keys that they have. -/
theorem perm_flatMap_filter
    {α : Type}
    {keys : List String}
    (hKeys : keys.Nodup)
    (items : List (String × α))
    (hItems : ∀ item ∈ items, item.1 ∈ keys) :
    (keys.flatMap fun key =>
      items.filter fun item => item.1 = key).Perm items := by
  induction keys generalizing items with
  | nil =>
      have hNone : items = [] :=
        List.eq_nil_iff_forall_not_mem.mpr fun item hItem =>
          List.not_mem_nil (hItems item hItem)
      rw [hNone]
      exact .nil
  | cons first rest ih =>
      rw [List.nodup_cons] at hKeys
      have hOthers :=
        ih hKeys.2 (items.filter fun item => !item.1 = first)
          (by
            intro item hItem
            rcases List.mem_filter.mp hItem with
              ⟨hMember, hOther⟩
            exact (List.mem_cons.mp (hItems item hMember)).resolve_left
              (by simpa using hOther))
      have hRest :
          (rest.flatMap fun key =>
              items.filter fun item => item.1 = key) =
            rest.flatMap fun key =>
              (items.filter fun item =>
                !item.1 = first).filter fun item =>
                  item.1 = key := by
        apply List.flatMap_congr
        intro key hKey
        rw [List.filter_filter]
        apply List.filter_congr
        intro item _
        by_cases hSame : item.1 = key
        · have hOther : key ≠ first := fun hFirst =>
            hKeys.1 (hFirst ▸ hKey)
          simp [hSame, hOther]
        · simp [hSame]
      rw [List.flatMap_cons, hRest]
      exact (hOthers.append_left _).trans
        (List.filter_append_perm _ items)

/- A link is owned by one side, if it is created at all. -/
theorem toList_createdTable?
    (model : Model)
    (relation : Relation) :
    relation.ownedTable?.toList ++
        ((reverse? model relation).bind
          Relation.ownedTable?).toList =
      relation.createdTable?.toList := by
  unfold reverse? Relation.ownedTable? Planner.ownedLink?
    Relation.createdTable? Relation.manyToMany?
  cases hKind : relation.kind with
  | foreignKey key =>
      cases key.relatedName with
      | none => simp
      | some name => simp
  | backward key => simp
  | manyToMany link =>
      unfold ManyToMany.isCreated
      cases hOwns : link.ownsThrough <;>
        cases hRelated : link.relatedName <;>
          simp [hOwns, hRelated, Option.filter_some]

/- What a model and its reverses own is what it creates. -/
theorem perm_createdTables (model : Model) :
    (model.relations.filterMap Relation.ownedTable? ++
        (reversesOf model).filterMap fun reverse =>
          reverse.2.ownedTable?).Perm
      (model.relations.filterMap Relation.createdTable?) := by
  have hReverses :
      ((reversesOf model).filterMap fun reverse =>
          reverse.2.ownedTable?) =
        model.relations.filterMap fun relation =>
          (reverse? model relation).bind
            Relation.ownedTable? := by
    rw [reversesOf, List.filterMap_filterMap]
    apply List.filterMap_congr
    intro relation _
    cases reverse? model relation with
    | none => rfl
    | some other => rfl
  rw [hReverses, List.filterMap_eq_flatMap_toList,
    List.filterMap_eq_flatMap_toList,
    List.filterMap_eq_flatMap_toList]
  refine (List.flatMap_append_perm _ _ _).trans (.of_eq ?_)
  apply List.flatMap_congr
  intro relation _
  exact toList_createdTable? model relation

variable {models linked : List Model}
variable {catalog : Catalog}

/- Reverses are addressed to models of the catalog. -/
theorem IsLinking.mem_names_of_reverse
    (hLinking : IsLinking models linked catalog)
    {reverse : String × Relation}
    (hReverse : reverse ∈ linked.flatMap reversesOf) :
    reverse.1 ∈ linked.map Model.name := by
  rcases List.mem_flatMap.mp hReverse with
    ⟨complete, hComplete, hMember⟩
  rcases mem_reversesOf hMember with
    ⟨relation, hRelation, hTarget, _⟩
  rcases hLinking.each.exists_of_mem_right hComplete with
    ⟨original, _, hLink⟩
  have hDeclared := target_of_linkModel hLink hRelation
  rw [model?_isSome_iff, List.map_map] at hDeclared
  rw [hTarget, hLinking.map_name.2]
  exact hDeclared

/- The links of a catalog are owned by one side each. -/
theorem IsLinking.perm_ownedTables
    (hLinking : IsLinking models linked catalog) :
    catalog.ownedTables.Perm
      (linked.flatMap fun complete =>
        complete.relations.filterMap
          Relation.createdTable?) := by
  have hNames : (linked.map Model.name).Nodup := by
    rw [hLinking.map_name.2]
    exact hLinking.names
  have hAddressed :
      (linked.flatMap fun complete =>
          ((linked.flatMap reversesOf).filter fun reverse =>
            reverse.1 = complete.name).filterMap fun reverse =>
              reverse.2.ownedTable?).Perm
        (linked.flatMap fun complete =>
          (reversesOf complete).filterMap fun reverse =>
            reverse.2.ownedTable?) := by
    have hAll :=
      (perm_flatMap_filter hNames _ fun reverse =>
        hLinking.mem_names_of_reverse).filterMap fun reverse =>
          reverse.2.ownedTable?
    rw [List.flatMap_map, List.filterMap_flatMap] at hAll
    refine hAll.trans (.of_eq ?_)
    exact List.filterMap_flatMap
  have hOwned :
      catalog.ownedTables =
        linked.flatMap fun complete =>
          complete.relations.filterMap Relation.ownedTable? ++
            ((linked.flatMap reversesOf).filter fun reverse =>
              reverse.1 = complete.name).filterMap
                fun reverse => reverse.2.ownedTable? := by
    rw [ownedTables, hLinking.reversed, List.flatMap_map]
    apply List.flatMap_congr
    intro complete _
    rw [Model.withReverses, List.filterMap_append,
      List.filterMap_map]
    rfl
  rw [hOwned]
  refine (List.flatMap_append_perm linked _ _).symm.trans ?_
  refine (hAddressed.append_left _).trans ?_
  refine (List.flatMap_append_perm linked _ _).trans ?_
  exact .flatMap_left linked fun complete _ =>
    perm_createdTables complete

end Catalog

end Relmap

------------------------------------------------------------
-- Names Of Link Tables
------------------------------------------------------------

namespace Relmap

namespace Catalog

variable {models linked : List Model}
variable {catalog : Catalog}

/- An open name is made of the tables that are connected. -/
theorem createdTable?_of_completeRelation
    {model : Model}
    {relation result : Relation}
    (hComplete :
      completeRelation ⟨models.map withTable⟩
          (withTable model) relation =
        .ok result)
    (hOpen :
      ∀ link ∈ relation.manyToMany?, link.through = "") :
    result.createdTable? =
      (linkEnds? models model relation).map linkName := by
  unfold completeRelation at hComplete
  rw [model?_withTable] at hComplete
  unfold Relation.manyToMany? at hOpen
  unfold Relation.createdTable? Relation.manyToMany? linkEnds?
  cases hTarget : model? ⟨models⟩ relation.target with
  | none =>
      rw [hTarget] at hComplete
      cases hComplete
  | some target =>
      rw [hTarget, Option.map_some] at hComplete
      cases hKind : relation.kind with
      | foreignKey key =>
          rw [hKind] at hComplete
          cases hComplete
          rfl
      | backward key =>
          rw [hKind] at hComplete
          cases hComplete
          simp [hKind]
      | manyToMany link =>
          rw [hKind] at hComplete hOpen
          dsimp only at hComplete
          split at hComplete
          · cases hComplete
          · cases hComplete
            have hCreated :
                (completeLink (withTable model).table
                  (withTable target).table
                    link).isCreated = link.isCreated :=
              rfl
            have hThrough :
                (completeLink model.tableName
                  target.tableName link).through =
                  linkName
                    (model.tableName, target.tableName) :=
              if_pos (hOpen link rfl)
            rw [Option.filter_some, hCreated]
            by_cases hOwned : link.isCreated = true
            · simp [hOwned, hThrough]
            · simp [hOwned]

/- So are the open names of all relations of a model. -/
theorem createdTables_of_completeRelation
    {model : Model}
    {originals results : List Relation}
    (hComplete :
      List.Forall₂
        (fun relation result =>
          completeRelation ⟨models.map withTable⟩
              (withTable model) relation =
            .ok result)
        originals results)
    (hOpen :
      ∀ relation ∈ originals,
        ∀ link ∈ relation.manyToMany?, link.through = "") :
    results.filterMap Relation.createdTable? =
      (originals.filterMap (linkEnds? models model)).map
        linkName := by
  induction hComplete with
  | nil => rfl
  | cons hFirst _ ih =>
      rw [List.forall_mem_cons] at hOpen
      rw [List.filterMap_cons, List.filterMap_cons,
        createdTable?_of_completeRelation hFirst hOpen.1,
        ih hOpen.2]
      cases linkEnds? models model _ with
      | none => rfl
      | some ends => rfl

/- And those of all models. -/
theorem createdTables_of_linkModel
    {originals : List Model}
    (hEach :
      List.Forall₂
        (fun model complete =>
          linkModel ⟨models.map withTable⟩ (withTable model) =
            .ok complete)
        originals linked)
    (hOpen : LeavesThroughOpen originals) :
    (linked.flatMap fun complete =>
        complete.relations.filterMap
          Relation.createdTable?) =
      (originals.flatMap fun model =>
        model.relations.filterMap
          (linkEnds? models model)).map linkName := by
  induction hEach with
  | nil => rfl
  | cons hFirst _ ih =>
      unfold LeavesThroughOpen at hOpen
      rw [List.forall_mem_cons] at hOpen
      rcases linkModel_eq_ok hFirst with
        ⟨relations, hRelations, rfl⟩
      rw [List.flatMap_cons, List.flatMap_cons,
        List.map_append, ih hOpen.2,
        createdTables_of_completeRelation hRelations hOpen.1]
      rfl

/-
  The link tables of a catalog are those of its declarations,
  named after the tables that they connect.
-/
theorem perm_ownedTables_of_link
    (hLink : link models = .ok catalog)
    (hOpen : LeavesThroughOpen models) :
    catalog.ownedTables.Perm
      ((linkEnds models).map linkName) := by
  rcases isLinking_of_link hLink with ⟨linked, hLinking⟩
  rw [linkEnds,
    ← createdTables_of_linkModel
      (List.forall₂_map_left_iff.mp hLinking.each) hOpen]
  exact hLinking.perm_ownedTables

end Catalog

end Relmap

------------------------------------------------------------
-- Created Tables
------------------------------------------------------------

namespace Relmap

namespace Planner

variable {planner : Planner}

/- The tables of a plan are its own, and those of links. -/
theorem tables_of_tablePlan
    {model : Model}
    {plan : TablePlan}
    (hPlan : planner.tablePlan model = .ok plan) :
    plan.definition.table = model.table ∧
      plan.links.map TableDefinition.table =
        model.relations.filterMap Relation.ownedTable? := by
  simp only [tablePlan, linkTables, Except.bind_eq_ok_iff]
    at hPlan
  rcases hPlan with ⟨_, _, _, _, links, hLinks, hPlan⟩
  cases hPlan
  refine ⟨rfl, ?_⟩
  rw [List.mapM_eq_ok_iff] at hLinks
  have hThrough (owned : Relation × ManyToMany)
      (link : TableDefinition)
      (hLink :
        planner.linkTable model owned.1 owned.2 = .ok link) :
      link.table = owned.2.through := by
    simp only [linkTable, Except.bind_eq_ok_iff] at hLink
    rcases hLink with ⟨_, _, _, _, _, _, _, _, _, _, hLink⟩
    cases hLink
    rfl
  rw [hLinks.map_eq hThrough, List.map_filterMap]
  apply List.filterMap_congr
  intro relation _
  rw [Relation.ownedTable?, Option.map_map]
  rfl

/- A schema has the tables of all models and owned links. -/
theorem perm_tables
    {tables : List TableDefinition}
    (hTables : planner.tables = .ok tables) :
    (tables.map TableDefinition.table).Perm
      (planner.catalog.models.map Model.table ++
        planner.catalog.ownedTables) := by
  simp only [Planner.tables, Except.bind_eq_ok_iff] at hTables
  rcases hTables with ⟨plans, hPlans, placed, hOrder, hDone⟩
  cases hDone
  have hPlaced := (TablePlan.inOrder_of_orderFrom hOrder).1
  rw [Planner.plans, List.mapM_eq_ok_iff] at hPlans
  have hModels :
      (plans.map TablePlan.definition).map
          TableDefinition.table =
        planner.catalog.models.map Model.table := by
    rw [List.map_map]
    exact hPlans.map_eq fun _ _ hPlan =>
      (tables_of_tablePlan hPlan).1
  have hLinks :
      (plans.flatMap TablePlan.links).map
          TableDefinition.table =
        planner.catalog.ownedTables := by
    have hEach :
        plans.map (fun plan =>
            plan.links.map TableDefinition.table) =
          planner.catalog.models.map fun model =>
            model.relations.filterMap Relation.ownedTable? :=
      hPlans.map_eq fun _ _ hPlan =>
        (tables_of_tablePlan hPlan).2
    rw [List.map_flatMap, Catalog.ownedTables,
      List.flatMap_def, hEach, List.flatMap_def]
  rw [← hModels, ← hLinks, List.map_append]
  exact ((hPlaced.map _).map _).append
    ((hPlaced.flatMap_right _).map _)

/- A text begins with the creation of a table. -/
def CreatesTable
    (planner : Planner)
    (table : String)
    (text : String) : Prop :=
  ∃ rest,
    text =
      "CREATE TABLE " ++
        (if planner.config.safe then "IF NOT EXISTS "
          else "") ++
        planner.dialect.quote table ++ " (" ++ rest

/- The text of a table begins with its creation. -/
theorem createsTable_sql (definition : TableDefinition) :
    planner.CreatesTable definition.table
      (definition.sql planner.dialect planner.config) := by
  have hCreate :
      definition.createSql planner.dialect planner.config =
        "CREATE TABLE " ++
            (if planner.config.safe then "IF NOT EXISTS "
              else "") ++
            planner.dialect.quote definition.table ++ " (" ++
          ("\n    " ++
            ",\n    ".intercalate
              (definition.entries.map Entry.text) ++
            "\n)" ++
            planner.dialect.tableExtra definition.table ++
            definition.comment ++ ";") := by
    unfold TableDefinition.createSql SchemaConfig.existsClause
    apply String.toList_inj.mp
    simp
  unfold TableDefinition.sql CreatesTable
  rw [hCreate]
  cases definition.statements.map Statement.text with
  | nil => exact ⟨_, String.intercalate_singleton⟩
  | cons next rest =>
      rw [String.intercalate_cons_cons]
      simp only [String.append_assoc]
      exact ⟨_, rfl⟩

end Planner

end Relmap

------------------------------------------------------------
-- Distinct Tables
------------------------------------------------------------

namespace Relmap

namespace Catalog

/- The first underscore stands behind the first table. -/
theorem linkName_injective
    {left right : String × String}
    (hLeft : '_' ∉ left.1.toList)
    (hRight : '_' ∉ right.1.toList)
    (hName : linkName left = linkName right) :
    left = right := by
  have hTexts :
      left.1.toList ++ '_' :: left.2.toList =
        right.1.toList ++ '_' :: right.2.toList := by
    simpa [linkName] using congrArg String.toList hName
  have hFront (front back : List Char)
      (hPlain : '_' ∉ front) :
      (front ++ '_' :: back).takeWhile (· ≠ '_') = front := by
    rw [List.takeWhile_append_of_pos]
    · simp
    · intro char hChar
      exact decide_eq_true fun hSame => hPlain (hSame ▸ hChar)
  have hFirst : left.1.toList = right.1.toList := by
    rw [← hFront _ left.2.toList hLeft, hTexts,
      hFront _ _ hRight]
  rw [hFirst, List.append_cancel_left_eq] at hTexts
  exact Prod.ext (String.toList_inj.mp hFirst)
    (String.toList_inj.mp (List.cons.inj hTexts).2)

variable {models : List Model}

/- Links connect the tables of their models first. -/
theorem exists_model_of_mem_linkEnds
    {ends : String × String}
    (hEnds : ends ∈ linkEnds models) :
    ∃ model ∈ models, model.tableName = ends.1 := by
  rcases List.mem_flatMap.mp hEnds with
    ⟨model, hModel, hRelation⟩
  rcases List.mem_filterMap.mp hRelation with
    ⟨relation, _, hSome⟩
  refine ⟨model, hModel, ?_⟩
  unfold linkEnds? at hSome
  split at hSome
  · split at hSome
    · rcases Option.map_eq_some_iff.mp hSome with
        ⟨target, _, rfl⟩
      rfl
    · cases hSome
  · cases hSome

/- Without underscores all names of link tables are new. -/
theorem nodup_linkNames
    (hPlain :
      ∀ model ∈ models, '_' ∉ model.tableName.toList)
    (hEnds : (linkEnds models).Nodup) :
    ((linkEnds models).map linkName).Nodup ∧
      ∀ name ∈ (linkEnds models).map linkName,
        name ∉ models.map Model.tableName := by
  have hFirst (ends : String × String)
      (hMember : ends ∈ linkEnds models) :
      '_' ∉ ends.1.toList := by
    rcases exists_model_of_mem_linkEnds hMember with
      ⟨model, hModel, hSame⟩
    rw [← hSame]
    exact hPlain model hModel
  constructor
  · exact hEnds.map_on fun left hLeft right hRight =>
      linkName_injective (hFirst left hLeft)
        (hFirst right hRight)
  · intro name hName hTable
    rcases List.mem_map.mp hName with ⟨ends, _, rfl⟩
    rcases List.mem_map.mp hTable with ⟨model, hModel, hSame⟩
    apply hPlain model hModel
    rw [hSame]
    simp [linkName]

/- Linking gives every model its table. -/
theorem map_table_of_link
    {catalog : Catalog}
    (hLink : link models = .ok catalog) :
    catalog.models.map Model.table =
      models.map Model.tableName := by
  rcases isLinking_of_link hLink with ⟨linked, hLinking⟩
  have hEach :=
    List.forall₂_map_left_iff.mp hLinking.each
  rw [hLinking.reversed, List.map_map]
  apply hEach.map_eq
  intro model complete hComplete
  rcases linkModel_eq_ok hComplete with ⟨relations, _, rfl⟩
  rfl

end Catalog

namespace Planner

variable {planner : Planner}
variable {models : List Model}

/-
  A schema creates one table for each model and one for each
  link, whose name is made of those of the tables that it
  connects. No table is created twice exactly if these names
  are new, which they are if names of tables do not have
  underscores and no tables are connected twice.
-/
theorem tables_of_link
    (hLink : Catalog.link models = .ok planner.catalog)
    (hDistinct :
      (planner.catalog.models.map Model.table).Nodup)
    (hOpen : Catalog.LeavesThroughOpen models)
    {text : String}
    (hText : planner.schemaSql = .ok text) :
    ∃ tables,
      planner.tables = .ok tables ∧
        text =
          "\n".intercalate
            (tables.map
              (TableDefinition.sql planner.dialect
                planner.config)) ∧
        (∀ definition ∈ tables,
          planner.CreatesTable definition.table
            (definition.sql planner.dialect
              planner.config)) ∧
        (tables.map TableDefinition.table).Perm
          (planner.catalog.models.map Model.table ++
            planner.catalog.ownedTables) ∧
        planner.catalog.ownedTables.Perm
          ((Catalog.linkEnds models).map Catalog.linkName) ∧
        ((tables.map TableDefinition.table).Nodup ↔
          ((Catalog.linkEnds models).map
              Catalog.linkName).Nodup ∧
            ∀ name ∈
                (Catalog.linkEnds models).map Catalog.linkName,
              name ∉ models.map Model.tableName) ∧
        ((Catalog.linkEnds models).Nodup →
          (∀ model ∈ models,
            '_' ∉ model.tableName.toList) →
          (tables.map TableDefinition.table).Nodup) := by
  simp only [schemaSql, Except.bind_eq_ok_iff] at hText
  rcases hText with ⟨tables, hTables, hText⟩
  cases hText
  have hPerm := perm_tables hTables
  have hOwned :=
    Catalog.perm_ownedTables_of_link hLink hOpen
  have hModels := Catalog.map_table_of_link hLink
  have hNodup :
      (tables.map TableDefinition.table).Nodup ↔
        ((Catalog.linkEnds models).map
            Catalog.linkName).Nodup ∧
          ∀ name ∈
              (Catalog.linkEnds models).map Catalog.linkName,
            name ∉ models.map Model.tableName := by
    rw [hPerm.nodup_iff, (hOwned.append_left _).nodup_iff,
      List.nodup_append', hModels]
    rw [hModels] at hDistinct
    constructor
    · rintro ⟨_, hNames, hDisjoint⟩
      exact ⟨hNames, fun name hName hTable =>
        hDisjoint hTable hName⟩
    · rintro ⟨hNames, hNew⟩
      exact ⟨hDistinct, hNames, fun name hTable hName =>
        hNew name hName hTable⟩
  refine ⟨tables, hTables, rfl,
    fun definition _ => createsTable_sql definition, hPerm,
    hOwned, hNodup, ?_⟩
  intro hEnds hPlain
  exact hNodup.mpr (Catalog.nodup_linkNames hPlain hEnds)

/- Books and their tags, of which the tags name the reverse. -/
private def tagging (labels : List Relation) : List Model :=
  [{ name := "Tag"
     fields := [.keyOfType "id" (.named FieldType.intName)] },
    { name := "Book"
      fields := [.keyOfType "id" (.named FieldType.intName)]
      relations :=
        (Relation.toMany "tags" "Tag").withRelatedName "books"
          :: labels }]

/- The tables of a schema, if it is created. -/
private def createdTables
    (planner : Planner) : Option (List String) :=
  match planner.schemaSql, planner.tables with
  | .ok _, .ok tables => some (tables.map TableDefinition.table)
  | _, _ => none

private theorem exists_of_createdTables
    {planner : Planner}
    {names : List String}
    (hNames : createdTables planner = some names) :
    ∃ text tables,
      planner.schemaSql = .ok text ∧
        planner.tables = .ok tables ∧
        text =
          "\n".intercalate
            (tables.map
              (TableDefinition.sql planner.dialect
                planner.config)) ∧
        tables.map TableDefinition.table = names := by
  unfold createdTables at hNames
  split at hNames
  · rename_i text tables hText hTables
    refine ⟨text, tables, hText, hTables, ?_,
      Option.some.inj hNames⟩
    rw [schemaSql, hTables] at hText
    cases hText
    rfl
  · cases hNames

/- Tags alone need one table, and books can share tags. -/
theorem tables_of_link_tagging :
    ∃ (planner : Planner) (text : String)
      (tables : List TableDefinition),
      Catalog.link (tagging []) = .ok planner.catalog ∧
        Catalog.LeavesThroughOpen (tagging []) ∧
        planner.schemaSql = .ok text ∧
        planner.tables = .ok tables ∧
        (tables.map TableDefinition.table).Nodup ∧
        tables.map TableDefinition.table =
          ["tag", "book", "book_tag"] := by
  rcases Except.exists_of_any
      (show (Catalog.link (tagging [])).toOption.any
          (fun catalog =>
            (catalog.models.map Model.table).Nodup ∧
              createdTables ⟨catalog, .sqlite, {}⟩ =
                some ["tag", "book", "book_tag"]) = true by
        decide +kernel) with
    ⟨catalog, hLink, hCreated⟩
  rcases of_decide_eq_true hCreated with ⟨hDistinct, hNames⟩
  rcases exists_of_createdTables hNames with
    ⟨text, tables, hText, hTables, _, hSame⟩
  have hOpen : Catalog.LeavesThroughOpen (tagging []) := by
    decide
  rcases tables_of_link hLink hDistinct hOpen hText with
    ⟨others, hOthers, _, _, _, _, _, hNodup⟩
  rw [hTables] at hOthers
  cases hOthers
  exact ⟨⟨catalog, .sqlite, {}⟩, text, tables, hLink, hOpen,
    hText, hTables,
    hNodup (by decide +kernel) (by decide +kernel), hSame⟩

/- Tags and labels of books are kept in one table. -/
theorem exists_table_created_twice :
    ∃ (planner : Planner) (text : String)
      (tables : List TableDefinition),
      Catalog.link (tagging [.toMany "labels" "Tag"]) =
          .ok planner.catalog ∧
        (planner.catalog.models.map Model.table).Nodup ∧
        Catalog.LeavesThroughOpen
          (tagging [.toMany "labels" "Tag"]) ∧
        planner.schemaSql = .ok text ∧
        planner.tables = .ok tables ∧
        text =
          "\n".intercalate
            (tables.map
              (TableDefinition.sql planner.dialect
                planner.config)) ∧
        (∀ definition ∈ tables,
          planner.CreatesTable definition.table
            (definition.sql planner.dialect
              planner.config)) ∧
        tables.map TableDefinition.table =
          ["tag", "book", "book_tag", "book_tag"] ∧
        ¬ (tables.map TableDefinition.table).Nodup ∧
        planner.catalog.ownedTables =
          ["book_tag", "book_tag"] ∧
        ¬ planner.catalog.ownedTables.Nodup := by
  rcases Except.exists_of_any
      (show (Catalog.link
            (tagging [.toMany "labels" "Tag"])).toOption.any
          (fun catalog =>
            (catalog.models.map Model.table).Nodup ∧
              createdTables ⟨catalog, .sqlite, {}⟩ =
                some ["tag", "book", "book_tag", "book_tag"] ∧
              catalog.ownedTables = ["book_tag", "book_tag"]) =
            true by
        decide +kernel) with
    ⟨catalog, hLink, hCreated⟩
  rcases of_decide_eq_true hCreated with
    ⟨hDistinct, hNames, hOwned⟩
  rcases exists_of_createdTables hNames with
    ⟨text, tables, hText, hTables, hLines, hSame⟩
  refine ⟨⟨catalog, .sqlite, {}⟩, text, tables, hLink,
    hDistinct, by decide, hText, hTables, hLines,
    fun definition _ => createsTable_sql definition, hSame, ?_,
    hOwned, ?_⟩
  · rw [hSame]
    decide
  · rw [hOwned]
    decide

end Planner

end Relmap
