import Relmap.Proofs.Query.Passages

/-
  No column of a resolved query dangles.

  The condition of a join speaks of the joined table and of
  tables that are part of the query already, and predicates
  speak of the table of the model and of joined tables. The
  trail of a key starts at the table of the model, and each
  of its joins continues where the one before it ended. So
  trails may follow one another in any order.

  Main declarations:
    * `Join.AreOver`
    * `Catalog.Follows.areOver`
    * `FilterTree.areOver_of_resolve`
-/

------------------------------------------------------------
-- Scopes Of Joins
------------------------------------------------------------

namespace Relmap

namespace Join

/-
  Each condition is over known tables, over the table that
  it joins, and over those joined before it.
-/
def AreOver (known : List String) : List Join → Prop
  | [] => True
  | join :: rest =>
      Term.AreOver (join.table :: known)
          join.condition.subterms ∧
        AreOver (join.table :: known) rest

variable {known others : List String}
variable {join : Join}
variable {joins left right : List Join}

/- More tables may be known. -/
theorem AreOver.mono
    (hOver : AreOver known joins)
    (hKnown : known ⊆ others) :
    AreOver others joins := by
  induction joins generalizing known others with
  | nil => trivial
  | cons join rest ih =>
      have hMore : join.table :: known ⊆ join.table :: others :=
        List.cons_subset_cons _ hKnown
      exact ⟨hOver.1.mono hMore (List.Subset.refl _),
        ih hOver.2 hMore⟩

/- Joins may follow others that they do not need. -/
theorem AreOver.append
    (hLeft : AreOver known left)
    (hRight : AreOver known right) :
    AreOver known (left ++ right) := by
  induction left generalizing known with
  | nil => exact hRight
  | cons join rest ih =>
      have hMore : AreOver (join.table :: known) right :=
        hRight.mono (List.subset_cons_self _ _)
      exact ⟨hLeft.1, ih hLeft.2 hMore⟩

/- A condition knows what is joined before it. -/
theorem AreOver.of_append_cons
    (hOver : AreOver known (left ++ join :: right)) :
    Term.AreOver
      (known ++ join.table :: left.map Join.table)
      join.condition.subterms := by
  induction left generalizing known with
  | nil =>
      refine hOver.1.mono ?_ (List.Subset.refl _)
      simp
  | cons first rest ih =>
      refine (ih hOver.2).mono ?_ (List.Subset.refl _)
      intro table
      simp
      tauto

end Join

namespace Catalog

variable {catalog : Catalog}
variable {start last : String}
variable {passages : List Passage}
variable {joins : List Join}

/- The joins of a way know where the way starts. -/
theorem Follows.areOver
    (hFollows : catalog.Follows start passages joins last)
    {known : List String}
    (hStart : start ∈ known) :
    Join.AreOver known joins := by
  induction hFollows generalizing known with
  | nil => trivial
  | cons hSource hJoin _ ih =>
      refine ⟨hJoin.areOver.mono ?_ (List.Subset.refl _),
        ih List.mem_cons_self⟩
      rw [hSource]
      simp [hStart]

/- A way ends at a joined table, if not where it starts. -/
theorem Follows.last_mem
    (hFollows : catalog.Follows start passages joins last) :
    last ∈ start :: joins.map Join.table := by
  induction hFollows with
  | nil => exact List.mem_cons_self
  | cons _ _ _ ih => exact List.mem_cons_of_mem _ ih

end Catalog

end Relmap

------------------------------------------------------------
-- Scopes Of Modifiers
------------------------------------------------------------

namespace Relmap

/-
  Joins are over a table and those joined before them, and
  predicates over that table and all that are joined.
-/
structure Modifier.IsOver
    (table : String)
    (modifier : Modifier) : Prop where
  joins : Join.AreOver [table] modifier.joins
  predicates :
    Term.AreOver (table :: modifier.joins.map Join.table)
      modifier.subterms

namespace Modifier

variable {table : String}
variable {left right modifier : Modifier}

/- A combination is in scope if both sides are. -/
theorem IsOver.combine
    (hLeft : left.IsOver table)
    (hRight : right.IsOver table)
    (joinType : JoinType) :
    (joinType.combine left right).IsOver table := by
  constructor
  · rw [joins_combine]
    exact hLeft.joins.append hRight.joins
  · have hBoth :
        Term.AreOver
          (table ::
            (left.joins ++ right.joins).map Join.table)
          (left.subterms ++ right.subterms) := by
      rw [Term.areOver_append_iff]
      constructor
      · refine hLeft.predicates.mono ?_ (List.Subset.refl _)
        simp
      · refine hRight.predicates.mono ?_ (List.Subset.refl _)
        simp
    rw [joins_combine]
    exact hBoth.mono (List.Subset.refl _)
      (subterms_combine_subset joinType left right)

theorem IsOver.negate
    (hModifier : modifier.IsOver table) :
    modifier.negate.IsOver table := by
  constructor
  · rw [joins_negate]
    exact hModifier.joins
  · rw [joins_negate]
    exact hModifier.predicates.mono (List.Subset.refl _)
      (subterms_negate_subset modifier)

/- The modifier of a key is over the table of the model. -/
theorem isOver_of_resolveKey
    {context : Context}
    {model : Model}
    {key : String}
    {value : FilterValue}
    (hPart :
      context.resolveKey model key value = .ok modifier) :
    modifier.IsOver model.table := by
  rcases Context.takes_of_resolveKey hPart with
    ⟨trail, last, _, hFollows, hOver⟩
  refine ⟨hFollows.areOver List.mem_cons_self,
    hOver.mono ?_ (List.Subset.refl _)⟩
  intro table hTable
  rw [List.mem_singleton.mp hTable]
  exact hFollows.last_mem

end Modifier

end Relmap

------------------------------------------------------------
-- Scopes Of Trees
------------------------------------------------------------

namespace Relmap

namespace FilterTree

variable {context : Context}
variable {model : Model}

/-
  Whatever the catalog and the tree: every column of the
  modifier is qualified. In the condition of a join it is
  one of the table of the model, of the joined table, or of
  a table joined before; in a predicate it is one of the
  table of the model or of a joined table.
-/
theorem areOver_of_resolve
    {tree : FilterTree}
    {modifier : Modifier}
    (hResolve : tree.resolve context model = .ok modifier) :
    (∀ before join after,
      modifier.joins = before ++ join :: after →
        ∀ column, .column column ∈ join.condition.subterms →
          ∃ table ∈
              model.table :: join.table ::
                before.map Join.table,
            column.table = some table) ∧
    (∀ column,
      .column column ∈ modifier.predicate.subterms ∨
          .column column ∈ modifier.having.subterms →
        ∃ table ∈ model.table :: modifier.joins.map Join.table,
          column.table = some table) := by
  have hKept :
      IsKept context model fun _ modifier =>
        modifier.IsOver model.table :=
    { none := ⟨trivial, fun _ hColumn => by cases hColumn⟩
      key := fun _ _ hPart =>
        Modifier.isOver_of_resolveKey hPart
      combine := fun joinType _ _ _ _ hLeft hRight =>
        hLeft.combine hRight joinType
      negate := fun _ _ hModifier => hModifier.negate }
  have hOver := holds_of_resolve hKept hResolve
  constructor
  · intro before join after hJoins
    have hJoin := hOver.joins
    rw [hJoins] at hJoin
    exact hJoin.of_append_cons
  · intro column hColumn
    exact hOver.predicates column
      (List.mem_append.mpr hColumn)

/- A model with a key and a name. -/
private def namedModel
    (name : String)
    (table : String)
    (fields : List Field)
    (relations : List Relation) : Model :=
  { name := name
    table := table
    fields :=
      .keyOfType "id" (.named FieldType.intName) ::
        .ofType "name" (.named FieldType.textName) :: fields
    relations := relations }

private def taggedBook : Model :=
  namedModel "Book" "book"
    [.ofType "author_id" (.named FieldType.intName)]
    [.toOne "author" "Author",
      ((Relation.toMany "tags" "Tag").withThrough
        "book_tag").withKeys "book_id" "tag_id"]

/- Books whose tags are counted, of authors of publishers. -/
private def taggedContext : Context :=
  { catalog :=
      ⟨[taggedBook,
        namedModel "Author" "author"
          [.ofType "house_id" (.named FieldType.intName)]
          [.toOne "house" "House"],
        namedModel "House" "house" [] [],
        namedModel "Tag" "tag" [] []]⟩
    computed := [("number", .aggregate .count "tags" false)]
    custom := CustomFilters.ofNames ["number"] }

/- A path of two hops, or a number of tags. -/
private def taggedTree : FilterTree :=
  (constraint "author__house__name"
    (.literal (.string "x"))).or
    (constraint "number__gt" (.literal (.int64 2)))

/- Two trails one after the other, over groups of rows. -/
theorem areOver_of_resolve_tagged :
    ∃ modifier,
      taggedTree.resolve taggedContext taggedBook =
        .ok modifier ∧
      modifier.joins.map Join.table =
        ["author", "house", "book_tag", "tag"] ∧
      modifier.having.isEmpty = false ∧
      (∀ before join after,
        modifier.joins = before ++ join :: after →
          ∀ column,
            .column column ∈ join.condition.subterms →
              ∃ table ∈
                  "book" :: join.table ::
                    before.map Join.table,
                column.table = some table) ∧
      (∀ column,
        .column column ∈ modifier.predicate.subterms ∨
            .column column ∈ modifier.having.subterms →
          ∃ table ∈ "book" :: modifier.joins.map Join.table,
            column.table = some table) := by
  have hResolve :
      taggedTree.resolve taggedContext taggedBook = .ok _ :=
    rfl
  exact ⟨_, hResolve, rfl, rfl, areOver_of_resolve hResolve⟩

end FilterTree

end Relmap
