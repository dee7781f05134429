import Relmap.Catalog.Basic

/-
  What is found in a catalog or a model is one of its own,
  and with distinct names everything of it is found.

  Main declarations:
    * `find?_name_of_mem`
    * `Model.field?_eq_some`
    * `Model.relation?_eq_some`
    * `Catalog.model?_of_mem`
    * `Catalog.require_eq_ok_iff`
-/

------------------------------------------------------------
-- Distinct Names
------------------------------------------------------------

namespace Relmap

variable {α : Type}
variable {name : α → String}
variable {items : List α}
variable {item : α}

/- Of items with distinct names one has a given name. -/
theorem filter_name_of_mem
    (hNames : (items.map name).Nodup)
    (hMember : item ∈ items) :
    items.filter (fun other => name other = name item) =
      [item] := by
  induction items with
  | nil => cases hMember
  | cons first rest ih =>
      rw [List.map_cons, List.nodup_cons] at hNames
      rcases List.mem_cons.mp hMember with rfl | hRest
      · rw [List.filter_cons_of_pos (by simp),
          List.filter_eq_nil_iff.mpr]
        intro other hOther hSame
        apply hNames.1
        rw [← of_decide_eq_true hSame]
        exact List.mem_map_of_mem hOther
      · rw [List.filter_cons_of_neg, ih hNames.2 hRest]
        intro hSame
        apply hNames.1
        rw [of_decide_eq_true hSame]
        exact List.mem_map_of_mem hRest

/- So it is the first one. -/
theorem find?_name_of_mem
    (hNames : (items.map name).Nodup)
    (hMember : item ∈ items) :
    items.find? (fun other => name other = name item) =
      some item := by
  rw [← List.head?_filter, filter_name_of_mem hNames hMember]
  rfl

end Relmap

------------------------------------------------------------
-- Members Of Models
------------------------------------------------------------

namespace Relmap

namespace Model

variable {model : Model}
variable {name : String}

theorem field?_eq_some
    {field : Field}
    (hField : model.field? name = some field) :
    field ∈ model.fields ∧ field.name = name :=
  ⟨List.mem_of_find?_eq_some hField, by
    simpa using List.find?_some hField⟩

/- With distinct names every field is found by its own. -/
theorem field?_of_mem
    (hNames : (model.fields.map Field.name).Nodup)
    {field : Field}
    (hMember : field ∈ model.fields) :
    model.field? field.name = some field :=
  find?_name_of_mem hNames hMember

theorem field?_isSome_iff :
    (model.field? name).isSome = true ↔
      name ∈ model.fields.map Field.name := by
  simp [field?]

theorem relation?_eq_some
    {relation : Relation}
    (hRelation : model.relation? name = some relation) :
    relation ∈ model.relations ∧ relation.name = name :=
  ⟨List.mem_of_find?_eq_some hRelation, by
    simpa using List.find?_some hRelation⟩

/- With distinct names every relation is found by its own. -/
theorem relation?_of_mem
    (hNames : (model.relations.map Relation.name).Nodup)
    {relation : Relation}
    (hMember : relation ∈ model.relations) :
    model.relation? relation.name = some relation :=
  find?_name_of_mem hNames hMember

theorem relation?_isSome_iff :
    (model.relation? name).isSome = true ↔
      name ∈ model.relations.map Relation.name := by
  simp [relation?]

end Model

end Relmap

------------------------------------------------------------
-- Models Of Catalogs
------------------------------------------------------------

namespace Relmap

namespace Catalog

variable {catalog : Catalog}
variable {name : String}

theorem model?_eq_some
    {model : Model}
    (hModel : catalog.model? name = some model) :
    model ∈ catalog.models ∧ model.name = name :=
  ⟨List.mem_of_find?_eq_some hModel, by
    simpa using List.find?_some hModel⟩

theorem model?_isSome_iff :
    (catalog.model? name).isSome = true ↔
      name ∈ catalog.models.map Model.name := by
  simp [model?]

/- With distinct names every model is found by its own. -/
theorem model?_of_mem
    (hNames : (catalog.models.map Model.name).Nodup)
    {model : Model}
    (hMember : model ∈ catalog.models) :
    catalog.model? model.name = some model :=
  find?_name_of_mem hNames hMember

theorem require_eq_ok_iff
    {model : Model} :
    catalog.require name = .ok model ↔
      catalog.model? name = some model := by
  unfold require
  cases catalog.model? name with
  | none => simp
  | some found => simp

end Catalog

end Relmap
