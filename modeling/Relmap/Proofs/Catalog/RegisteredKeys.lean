import Relmap.Proofs.Catalog.FilterTarget

/-
  Keys are read back as what they were built from.

  The key of a lookup on a member is taken apart at its last
  separator, whatever underscores the name of the member has.
  Only a key without a suffix can be misread, and it is if
  the name of the member ends in a suffix itself.

  Main declarations:
    * `Lookup.HasSuffix`
    * `Catalog.memberTarget?`
    * `Catalog.ReadsBack`
    * `Catalog.readsBack_members`
-/

------------------------------------------------------------
-- Names That End In A Suffix
------------------------------------------------------------

namespace Relmap

/- The name is another one with the suffix of a lookup. -/
def Lookup.HasSuffix (name : String) : Prop :=
  ∃ (base : String) (lookup : Lookup),
    lookup ≠ .exact ∧ name = base ++ "__" ++ lookup.suffix

namespace Catalog

/- A lookup is read from a name exactly if it ends in one. -/
theorem lookup_baseAndLookup_eq_exact_iff
    {name : String} :
    (baseAndLookup name).2 = .exact ↔
      ¬ Lookup.HasSuffix name := by
  constructor
  · rintro hExact ⟨base, lookup, hLookup, hName⟩
    rw [← Lookup.key_of_ne hLookup] at hName
    rw [hName, baseAndLookup_key_of_ne hLookup] at hExact
    exact hLookup hExact
  · intro hNone
    apply Decidable.byContradiction
    intro hLookup
    apply hNone
    refine ⟨(baseAndLookup name).1, (baseAndLookup name).2,
      hLookup, ?_⟩
    rw [← Lookup.key_of_ne hLookup, key_baseAndLookup]

/- Otherwise the name is a member of its own. -/
theorem baseAndLookup_of_not_hasSuffix
    {name : String}
    (hNone : ¬ Lookup.HasSuffix name) :
    baseAndLookup name = (name, .exact) := by
  have hLookup :=
    lookup_baseAndLookup_eq_exact_iff.mpr hNone
  have hBase := key_baseAndLookup name
  rw [hLookup, Lookup.key_exact] at hBase
  exact Prod.ext hBase hLookup

instance (name : String) : Decidable (Lookup.HasSuffix name) :=
  decidable_of_iff ((baseAndLookup name).2 ≠ .exact)
    (by
      rw [Ne, lookup_baseAndLookup_eq_exact_iff,
        Classical.not_not])

end Catalog

end Relmap

------------------------------------------------------------
-- Members And Their Keys
------------------------------------------------------------

namespace Relmap

namespace Catalog

variable {catalog : Catalog}
variable {model : Model}
variable {member column : String}
variable {join : Option FilterJoin}

/-
  What a lookup on a member compares: fields come before
  relations.
-/
def memberTarget?
    (catalog : Catalog)
    (model : Model)
    (member : String)
    (lookup : Lookup) : Option FilterTarget :=
  match model.field? member with
  | some field =>
      some
        { member := member
          column := field.column
          lookup := lookup
          join := none }
  | none =>
      (model.relation? member).bind fun relation =>
        catalog.relationTarget? relation member lookup

/- A key stands for the member and lookup read from it. -/
theorem filterTarget?_eq_memberTarget? (key : String) :
    catalog.filterTarget? model key =
      catalog.memberTarget? model (baseAndLookup key).1
        (baseAndLookup key).2 :=
  rfl

theorem lookup_of_relationTarget?
    {relation : Relation}
    {lookup : Lookup}
    {target : FilterTarget}
    (hTarget :
      catalog.relationTarget? relation member lookup =
        some target) :
    target.lookup = lookup := by
  unfold relationTarget? at hTarget
  cases hKind : relation.kind with
  | foreignKey key =>
      rw [hKind] at hTarget
      cases hTarget
  | manyToMany link =>
      rw [hKind] at hTarget
      cases hTarget
      rfl
  | backward key =>
      simp only [hKind, Option.bind_eq_bind,
        Option.bind_eq_some_iff] at hTarget
      rcases hTarget with ⟨_, _, _, _, _, _, hSome⟩
      cases hSome
      rfl

/- No comparison changes the lookup that it is asked for. -/
theorem lookup_of_memberTarget?
    {lookup : Lookup}
    {target : FilterTarget}
    (hTarget :
      catalog.memberTarget? model member lookup =
        some target) :
    target.lookup = lookup := by
  unfold memberTarget? at hTarget
  cases hField : model.field? member with
  | some field =>
      rw [hField] at hTarget
      cases hTarget
      rfl
  | none =>
      rw [hField] at hTarget
      rcases Option.bind_eq_some_iff.mp hTarget with
        ⟨relation, _, hRelation⟩
      exact lookup_of_relationTarget? hRelation

/-
  A member is read back from its keys. From the key of the
  exact lookup, which is its bare name, it is read back
  exactly if the name does not end in a suffix.
-/
structure ReadsBack
    (catalog : Catalog)
    (model : Model)
    (member : String)
    (column : String)
    (join : Option FilterJoin) : Prop where
  keyed :
    ∀ lookup : Lookup, lookup ≠ .exact →
      catalog.filterTarget? model (lookup.key member) =
        some ⟨member, column, lookup, join⟩
  bare :
    catalog.filterTarget? model
        (Lookup.exact.key member) =
      some ⟨member, column, .exact, join⟩ ↔
    ¬ Lookup.HasSuffix member

/- It is enough that the member is compared in one way. -/
theorem readsBack_of_memberTarget?
    (hMember :
      ∀ lookup,
        catalog.memberTarget? model member lookup =
          some ⟨member, column, lookup, join⟩) :
    catalog.ReadsBack model member column join := by
  constructor
  · intro lookup hLookup
    rw [filterTarget?_eq_memberTarget?,
      baseAndLookup_key_of_ne hLookup]
    exact hMember lookup
  · rw [Lookup.key_exact, filterTarget?_eq_memberTarget?]
    constructor
    · -- A suffix would have been taken for the lookup.
      intro hTarget
      exact lookup_baseAndLookup_eq_exact_iff.mp
        (lookup_of_memberTarget? hTarget).symm
    · intro hNone
      rw [baseAndLookup_of_not_hasSuffix hNone]
      exact hMember .exact

end Catalog

end Relmap

------------------------------------------------------------
-- Fields And Relations
------------------------------------------------------------

namespace Relmap

namespace Catalog

variable {catalog : Catalog}
variable {model : Model}

theorem readsBack_field
    {name : String}
    {field : Field}
    (hField : model.field? name = some field) :
    catalog.ReadsBack model name field.column none := by
  apply readsBack_of_memberTarget?
  intro lookup
  simp only [memberTarget?, hField]

/- A relation is compared by itself if no field hides it. -/
theorem memberTarget?_relation
    {relation : Relation}
    (hRelation :
      model.relation? relation.name = some relation)
    (hHidden :
      relation.name ∉ model.fields.map Field.name)
    (lookup : Lookup) :
    catalog.memberTarget? model relation.name lookup =
      catalog.relationTarget? relation relation.name
        lookup := by
  rw [← Model.field?_isSome_iff, Option.not_isSome_iff_eq_none]
    at hHidden
  simp only [memberTarget?, hHidden, hRelation,
    Option.bind_some]

/-
  In any model every name of a field is read back as the
  first field of that name. If relations have distinct names
  then so is every relation that no field hides and that has
  something to be compared on.
-/
theorem readsBack_members
    (catalog : Catalog)
    (model : Model) :
    (∀ name ∈ model.fields.map Field.name,
      ∃ field,
        model.field? name = some field ∧
          catalog.ReadsBack model name field.column none) ∧
    ((model.relations.map Relation.name).Nodup →
      ∀ relation ∈ model.relations,
        relation.name ∉ model.fields.map Field.name →
          (∀ link,
            relation.kind = .manyToMany link →
              catalog.ReadsBack model relation.name
                link.forwardKey
                (some ⟨link.through, link.backwardKey⟩)) ∧
          ∀ key target backing primary,
            relation.kind = .backward key →
            catalog.model? relation.target = some target →
            target.field? key.relationField = some backing →
            target.primaryKey? = some primary →
              catalog.ReadsBack model relation.name
                primary.column
                (some ⟨target.table, backing.column⟩)) := by
  constructor
  · intro name hName
    rcases Option.isSome_iff_exists.mp
        (Model.field?_isSome_iff.mpr hName) with
      ⟨field, hField⟩
    exact ⟨field, hField, readsBack_field hField⟩
  · intro hNames relation hMember hHidden
    have hRelation := Model.relation?_of_mem hNames hMember
    constructor
    · intro link hKind
      apply readsBack_of_memberTarget?
      intro lookup
      rw [memberTarget?_relation hRelation hHidden,
        relationTarget?_of_manyToMany hKind]
    · intro key target backing primary hKind hTarget hBacking
        hPrimary
      apply readsBack_of_memberTarget?
      intro lookup
      rw [memberTarget?_relation hRelation hHidden,
        relationTarget?_of_backward hKind hTarget hBacking
          hPrimary]

/- A shelf with a field that is named like a lookup. -/
private def shelf : Model :=
  { name := "Shelf"
    table := "shelf"
    fields :=
      [.keyOfType "id" (.named FieldType.intName),
        { Field.ofType "row__in" (.named FieldType.intName) with
          sourceField := some "row_in" }]
    relations :=
      [⟨"tags_", "Tag",
          .manyToMany
            { through := "shelf_tag"
              forwardKey := "tag_id"
              backwardKey := "shelf_id" }⟩,
        .backward "_books" "Book" "shelf_id"] }

/- A book that stands on a shelf. -/
private def book : Model :=
  { name := "Book"
    table := "book"
    fields :=
      [.keyOfType "isbn" (.named FieldType.intName),
        .ofType "shelf_id" (.named FieldType.intName)] }

theorem readsBack_members_shelf :
    (∃ field,
      shelf.field? "row__in" = some field ∧
        ReadsBack ⟨[shelf, book]⟩ shelf "row__in" field.column
          none ∧
        filterTarget? ⟨[shelf, book]⟩ shelf "row__in__not_in" =
          some ⟨"row__in", "row_in", .notIn, none⟩ ∧
        filterTarget? ⟨[shelf, book]⟩ shelf "row__in" = none) ∧
    ReadsBack ⟨[shelf, book]⟩ shelf "tags_" "tag_id"
      (some ⟨"shelf_tag", "shelf_id"⟩) ∧
    ReadsBack ⟨[shelf, book]⟩ shelf "_books" "isbn"
      (some ⟨"book", "shelf_id"⟩) := by
  have hRead := readsBack_members ⟨[shelf, book]⟩ shelf
  have hRelations :=
    hRead.2 (by decide +kernel)
  refine ⟨?_, ?_, ?_⟩
  · rcases hRead.1 "row__in" (by decide +kernel) with
      ⟨field, hField, hReads⟩
    exact ⟨field, hField, hReads, by decide +kernel,
      by decide +kernel⟩
  · have hTags := hRelations _ List.mem_cons_self
    exact (hTags (by decide +kernel)).1 _ rfl
  · have hBooks :=
      hRelations _
        (List.mem_cons_of_mem _ List.mem_cons_self)
    exact (hBooks (by decide +kernel)).2 _ book _ _ rfl rfl rfl
      rfl

end Catalog

end Relmap
