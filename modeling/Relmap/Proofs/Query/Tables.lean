import Mathlib.Data.List.Nodup
import Relmap.Catalog.Linking
import Relmap.Criterion.Text
import Relmap.Proofs.Query.Passages

/-
  What the name of a table stands for in a resolved query.

  Joins have no aliases, so a table that is entered in two
  ways is joined on two conditions, and a table that is left
  and entered again has one name for two rows. If the
  constraints of a tree enter every table by one passage
  only, and the table of the model by none, then each name
  stands for one row: the one at the end of the only way
  that leads there.

  Main declarations:
    * `FilterTree.Passes`
    * `FilterTree.Walks`
    * `FilterTree.tables_of_resolve`
    * `FilterTree.exists_table_with_two_meanings`
-/

------------------------------------------------------------
-- Gathered Parts
------------------------------------------------------------

namespace Relmap

/-
  Joins are those of the modifiers of constraints, and
  nothing occurs in predicates that does not occur there.
-/
private structure Modifier.IsGathered
    (context : Context)
    (model : Model)
    (entries : List Constraint)
    (modifier : Modifier) : Prop where
  joins :
    ∀ join, join ∈ modifier.joins ↔
      ∃ entry ∈ entries, ∃ part,
        context.resolveKey model entry.1 entry.2 =
            .ok part ∧
          join ∈ part.joins
  terms :
    ∀ inner ∈ modifier.subterms,
      ∃ entry ∈ entries, ∃ part,
        context.resolveKey model entry.1 entry.2 =
            .ok part ∧
          inner ∈ part.subterms

namespace FilterTree

variable {context : Context}
variable {model : Model}

/- Modifiers are gathered from those of constraints. -/
private theorem isKept_isGathered :
    IsKept context model
      (Modifier.IsGathered context model) where
  none := ⟨by simp [Modifier.none], fun _ hInner => by
    cases hInner⟩
  key := by
    intro entry part hPart
    constructor
    · intro join
      simp [hPart]
    · intro inner hInner
      exact ⟨entry, List.mem_singleton_self entry, part,
        hPart, hInner⟩
  combine := by
    intro joinType first second left right hLeft hRight
    constructor
    · intro join
      rw [Modifier.joins_combine, List.mem_append,
        hLeft.joins, hRight.joins]
      simp only [List.mem_append, or_and_right, exists_or]
    · intro inner hInner
      have hEither :=
        Modifier.subterms_combine_subset joinType left right
          hInner
      rcases List.mem_append.mp hEither with hInner | hInner
      · rcases hLeft.terms inner hInner with
          ⟨entry, hEntry, hPart⟩
        exact ⟨entry, List.mem_append_left _ hEntry, hPart⟩
      · rcases hRight.terms inner hInner with
          ⟨entry, hEntry, hPart⟩
        exact ⟨entry, List.mem_append_right _ hEntry, hPart⟩
  negate := by
    intro entries modifier hModifier
    constructor
    · rw [Modifier.joins_negate]
      exact hModifier.joins
    · intro inner hInner
      exact hModifier.terms inner
        (modifier.subterms_negate_subset hInner)

end FilterTree

end Relmap

------------------------------------------------------------
-- Ways Of Trees
------------------------------------------------------------

namespace Relmap

namespace FilterTree

/- Some constraint of the tree takes the passage. -/
def Passes
    (context : Context)
    (model : Model)
    (tree : FilterTree)
    (passage : Passage) : Prop :=
  ∃ entry ∈ tree.allConstraints, ∃ trail,
    context.Takes model entry.1 entry.2.identity trail ∧
      passage ∈ trail

/- Some constraint of the tree takes these passages first. -/
def Walks
    (context : Context)
    (model : Model)
    (tree : FilterTree)
    (path : List Passage) : Prop :=
  ∃ entry ∈ tree.allConstraints, ∃ trail,
    context.Takes model entry.1 entry.2.identity trail ∧
      path <+: trail

variable {context : Context}
variable {model : Model}
variable {tree : FilterTree}

/- What is taken first is taken. -/
theorem Walks.passes
    {path : List Passage}
    (hWalks : tree.Walks context model path) :
    ∀ passage ∈ path, tree.Passes context model passage := by
  rcases hWalks with ⟨entry, hEntry, trail, hTakes, hPrefix⟩
  intro passage hPassage
  exact ⟨entry, hEntry, trail, hTakes,
    hPrefix.subset hPassage⟩

section Joins

variable {modifier : Modifier}

private theorem isGathered_of_resolve
    (hBuilt : tree.Built)
    (hResolve : tree.resolve context model = .ok modifier) :
    modifier.IsGathered context model tree.allConstraints := by
  have hGathered := holds_of_resolve isKept_isGathered hResolve
  rw [hBuilt.wellFormed.resolved_eq] at hGathered
  exact hGathered

/- Every join is written for a passage of the tree. -/
theorem exists_passage_of_resolve
    (hBuilt : tree.Built)
    (hResolve : tree.resolve context model = .ok modifier)
    {join : Join}
    (hJoin : join ∈ modifier.joins) :
    ∃ passage, tree.Passes context model passage ∧
      context.catalog.IsJoinOf passage join := by
  have hGathered := isGathered_of_resolve hBuilt hResolve
  rcases (hGathered.joins join).mp hJoin with
    ⟨entry, hEntry, part, hPart, hMember⟩
  rcases Context.takes_of_resolveKey hPart with
    ⟨trail, last, hTakes, hFollows, _⟩
  rcases hFollows.joins_eq.exists_of_mem_right hMember with
    ⟨passage, hTaken, hJoinOf⟩
  exact ⟨passage, ⟨entry, hEntry, trail, hTakes, hTaken⟩,
    hJoinOf⟩

/- With one passage into a table there is one join on it. -/
theorem join_unique_of_resolve
    (hBuilt : tree.Built)
    (hResolve : tree.resolve context model = .ok modifier)
    (hOne :
      ∀ passage, tree.Passes context model passage →
        ∀ other, tree.Passes context model other →
          context.catalog.entered? passage =
              context.catalog.entered? other →
            passage = other)
    {join other : Join}
    (hJoin : join ∈ modifier.joins)
    (hOther : other ∈ modifier.joins)
    (hTable : join.table = other.table) :
    join = other := by
  rcases exists_passage_of_resolve hBuilt hResolve hJoin with
    ⟨passage, hPasses, hFirst⟩
  rcases exists_passage_of_resolve hBuilt hResolve hOther with
    ⟨second, hPassesToo, hSecond⟩
  have hEntered :
      context.catalog.entered? passage =
        context.catalog.entered? second := by
    rw [hFirst.entered?_eq, hSecond.entered?_eq, hTable]
  rw [hOne passage hPasses second hPassesToo hEntered]
    at hFirst
  exact hFirst.unique hSecond

/- With none into a table there is no join on it. -/
theorem join_table_ne_of_resolve
    (hBuilt : tree.Built)
    (hResolve : tree.resolve context model = .ok modifier)
    {table : String}
    (hNone :
      ∀ passage, tree.Passes context model passage →
        context.catalog.entered? passage ≠ some table)
    {join : Join}
    (hJoin : join ∈ modifier.joins) :
    join.table ≠ table := by
  intro hTable
  rcases exists_passage_of_resolve hBuilt hResolve hJoin with
    ⟨passage, hPasses, hFirst⟩
  apply hNone passage hPasses
  rw [hFirst.entered?_eq, hTable]

end Joins

/-
  However a tree was built: suppose that it enters every
  table by one passage only, and the table of the model by
  none. Then joins of one table have one condition, no join
  is on the table of the model, and without repetitions
  every table is joined once. A column of a predicate is of
  the table where the way of its constraint ends. The joins
  of that way are there, and no other way ends at the table.
-/
theorem tables_of_resolve
    (hBuilt : tree.Built)
    {modifier : Modifier}
    (hResolve : tree.resolve context model = .ok modifier)
    (hOne :
      ∀ passage, tree.Passes context model passage →
        ∀ other, tree.Passes context model other →
          context.catalog.entered? passage =
              context.catalog.entered? other →
            passage = other)
    (hOwn :
      ∀ passage, tree.Passes context model passage →
        context.catalog.entered? passage ≠
          some model.table) :
    (∀ join ∈ modifier.joins, ∀ other ∈ modifier.joins,
      join.table = other.table →
        join.condition = other.condition) ∧
    (∀ join ∈ modifier.joins, join.table ≠ model.table) ∧
    (∀ kept, kept ⊆ modifier.joins → kept.Nodup →
      (model.table :: kept.map Join.table).Nodup) ∧
    (∀ column,
      .column column ∈ modifier.predicate.subterms ∨
          .column column ∈ modifier.having.subterms →
        ∃ entry ∈ tree.allConstraints, ∃ part trail last,
          (constraint entry.1 entry.2).resolve context model =
              .ok part ∧
            .column column ∈ part.subterms ∧
            column.table = some last ∧
            context.Takes model entry.1 entry.2.identity
              trail ∧
            context.catalog.Follows model.table trail
              part.joins last ∧
            part.joins ⊆ modifier.joins) ∧
    (∀ path other left right last,
      tree.Walks context model path →
        tree.Walks context model other →
          context.catalog.Follows model.table path left
              last →
            context.catalog.Follows model.table other right
                last →
              path = other) := by
  have hGathered := isGathered_of_resolve hBuilt hResolve
  have hAway :
      ∀ join ∈ modifier.joins, join.table ≠ model.table :=
    fun join hJoin =>
      join_table_ne_of_resolve hBuilt hResolve hOwn hJoin
  refine ⟨?_, hAway, ?_, ?_, ?_⟩
  · intro join hJoin other hOther hTable
    rw [join_unique_of_resolve hBuilt hResolve hOne hJoin
      hOther hTable]
  · intro kept hKept hNodup
    rw [List.nodup_cons]
    constructor
    · intro hTable
      rcases List.mem_map.mp hTable with ⟨join, hJoin, hOwnTable⟩
      exact hAway join (hKept hJoin) hOwnTable
    · refine List.Nodup.map_on ?_ hNodup
      intro join hJoin other hOther hTable
      exact join_unique_of_resolve hBuilt hResolve hOne
        (hKept hJoin) (hKept hOther) hTable
  · intro column hColumn
    rcases hGathered.terms _ (List.mem_append.mpr hColumn) with
      ⟨entry, hEntry, part, hPart, hOccurs⟩
    rcases Context.takes_of_resolveKey hPart with
      ⟨trail, last, hTakes, hFollows, hOver⟩
    rcases hOver column hOccurs with ⟨table, hTable, hQualified⟩
    rw [List.mem_singleton.mp hTable] at hQualified
    refine ⟨entry, hEntry, part, trail, last, ?_, hOccurs,
      hQualified, hTakes, hFollows, ?_⟩
    · rw [resolve_constraint]
      exact hPart
    · intro join hJoin
      exact (hGathered.joins join).mpr
        ⟨entry, hEntry, part, hPart, hJoin⟩
  · intro path other left right last hPath hOther hLeft hRight
    exact hLeft.unique hOne hOwn hRight hPath.passes
      hOther.passes

/- A model with a key and a name. -/
private def entryModel
    (name : String)
    (table : String)
    (fields : List Field)
    (relations : List Relation) : Model :=
  { name := name
    table := table
    fields :=
      .keyOfType "id" (.named FieldType.intName) ::
        .ofType "name" (.named FieldType.textName) :: fields
    relations := relations }

private def entryAuthor : Model :=
  entryModel "Author" "author"
    [.ofType "house_id" (.named FieldType.intName)]
    [.toOne "house" "House"]

private def entryBook : Model :=
  entryModel "Book" "book"
    [.ofType "author_id" (.named FieldType.intName)]
    [.toOne "author" "Author",
      ((Relation.toMany "tags" "Tag").withThrough
        "book_tag").withKeys "book_id" "tag_id"]

private def entryContext : Context :=
  .ofCatalog
    ⟨[entryBook, entryAuthor,
      entryModel "House" "house" [] [],
      entryModel "Tag" "tag" [] []]⟩

private def authorPassage : Passage :=
  ⟨entryBook, .toOne "author" "Author", .target⟩

private def housePassage : Passage :=
  ⟨entryAuthor, .toOne "house" "House", .target⟩

/- Two paths with a common hop. -/
private def entryTree : FilterTree :=
  (constraint "author__house__name"
    (.literal (.string "x"))).or
    (constraint "author__name" (.literal (.string "y")))

/- The passage to authors is taken by both constraints. -/
private theorem passes_entryTree
    {passage : Passage}
    (hPasses : entryTree.Passes entryContext entryBook passage) :
    passage ∈ [authorPassage, housePassage] := by
  have hFar :
      entryContext.Takes entryBook "author__house__name"
        (.string "x") [authorPassage, housePassage] :=
    ⟨_, _, _,
      .hop rfl rfl rfl (.hop rfl rfl rfl (.direct rfl rfl)),
      rfl⟩
  have hNear :
      entryContext.Takes entryBook "author__name"
        (.string "y") [authorPassage] :=
    ⟨_, _, _, .hop rfl rfl rfl (.direct rfl rfl), rfl⟩
  rcases hPasses with ⟨entry, hEntry, trail, hTakes, hTaken⟩
  have hEntries :
      entry = ("author__house__name", .literal (.string "x")) ∨
        entry = ("author__name", .literal (.string "y")) := by
    simpa [entryTree, FilterTree.or, any, ofParts, constraint,
      leaf, allConstraints, childConstraints] using hEntry
  rcases hEntries with rfl | rfl
  · rw [hTakes.unique hFar] at hTaken
    exact hTaken
  · rw [hTakes.unique hNear] at hTaken
    exact List.mem_cons.mpr
      (.inl (List.mem_singleton.mp hTaken))

/- The table of authors is joined twice, and on one condition. -/
theorem tables_of_resolve_entered_once :
    ∃ modifier,
      entryTree.resolve entryContext entryBook =
        .ok modifier ∧
      modifier.joins.map Join.table =
        ["author", "house", "author"] ∧
      (∀ join ∈ modifier.joins, ∀ other ∈ modifier.joins,
        join.table = other.table →
          join.condition = other.condition) ∧
      ∀ kept, kept ⊆ modifier.joins → kept.Nodup →
        ("book" :: kept.map Join.table).Nodup := by
  have hBuilt : entryTree.Built :=
    .or (.constraint _ _) (.constraint _ _)
  have hResolve :
      entryTree.resolve entryContext entryBook = .ok _ := rfl
  have hOne :
      ∀ passage,
        entryTree.Passes entryContext entryBook passage →
          ∀ other,
            entryTree.Passes entryContext entryBook other →
              entryContext.catalog.entered? passage =
                  entryContext.catalog.entered? other →
                passage = other := by
    intro passage hPassage other hOther
    exact List.inj_on_of_nodup_map (by decide +kernel)
      (passes_entryTree hPassage) (passes_entryTree hOther)
  have hOwn :
      ∀ passage,
        entryTree.Passes entryContext entryBook passage →
          entryContext.catalog.entered? passage ≠
            some entryBook.table := by
    intro passage hPassage
    have hAll :
        ∀ passage ∈ [authorPassage, housePassage],
          entryContext.catalog.entered? passage ≠
            some entryBook.table := by
      decide +kernel
    exact hAll passage (passes_entryTree hPassage)
  rcases tables_of_resolve hBuilt hResolve hOne hOwn with
    ⟨hSame, _, hKept, _⟩
  exact ⟨_, hResolve, rfl, hSame, hKept⟩

/- Books with an author, an editor and a sequel. -/
private def castModels : List Model :=
  [entryModel "Person" "person" [] [],
    entryModel "Book" "book" []
      [.toOne "author" "Person", .toOne "editor" "Person",
        .toOne "sequel" "Book"]]

/-
  With two foreign keys to one model, its table is joined on
  two conditions. With a foreign key of a model to itself,
  the table of the model is joined.
-/
theorem exists_table_with_two_meanings :
    ∃ catalog book,
      Catalog.link castModels = .ok catalog ∧
      (catalog.models.map Model.table).Nodup ∧
      (∀ model ∈ catalog.models,
        ∀ relation ∈ model.relations,
          relation.manyToMany? = none) ∧
      book ∈ catalog.models ∧
      (∃ modifier,
        ((constraint "author__name"
              (.literal (.string "x"))).and
            (constraint "editor__name"
              (.literal (.string "y")))).resolve
            (.ofCatalog catalog) book = .ok modifier ∧
          ∃ join ∈ modifier.joins,
            ∃ other ∈ modifier.joins,
              join.table = other.table ∧
                join.condition ≠ other.condition) ∧
      ∃ modifier,
        (constraint "sequel__name"
            (.literal (.string "z"))).resolve
            (.ofCatalog catalog) book = .ok modifier ∧
          ∃ join ∈ modifier.joins,
            join.table = book.table := by
  rcases Except.exists_of_any
      (show (Catalog.link castModels).toOption.any
          (fun catalog =>
            decide (catalog.models.map Model.table).Nodup &&
            (catalog.models.all fun model =>
              model.relations.all fun relation =>
                relation.manyToMany? = none) &&
            catalog.models.any fun book =>
              (((constraint "author__name"
                      (.literal (.string "x"))).and
                    (constraint "editor__name"
                      (.literal (.string "y")))).resolve
                  (.ofCatalog catalog) book).toOption.any
                (fun modifier =>
                  modifier.joins.any fun join =>
                    modifier.joins.any fun other =>
                      join.table = other.table ∧
                        join.condition.sql ≠
                          other.condition.sql) &&
              ((constraint "sequel__name"
                    (.literal (.string "z"))).resolve
                  (.ofCatalog catalog) book).toOption.any
                (fun modifier =>
                  modifier.joins.any fun join =>
                    join.table = book.table)) = true by
        decide +kernel) with
    ⟨catalog, hLink, hAny⟩
  simp only [Bool.and_eq_true, List.all_eq_true,
    List.any_eq_true, decide_eq_true_eq] at hAny
  rcases hAny with
    ⟨⟨hTables, hNone⟩, book, hBook, hRoles, hSequel⟩
  rcases Except.exists_of_any hRoles with
    ⟨roles, hResolve, hTwice⟩
  rcases Except.exists_of_any hSequel with
    ⟨sequel, hResolveToo, hOwn⟩
  simp only [List.any_eq_true, decide_eq_true_eq]
    at hTwice hOwn
  rcases hTwice with
    ⟨join, hJoin, other, hOther, hTable, hConditions⟩
  exact ⟨catalog, book, hLink, hTables, hNone, hBook,
    ⟨roles, hResolve, join, hJoin, other, hOther, hTable,
      fun hSame =>
        hConditions (congrArg Criterion.sql hSame)⟩,
    sequel, hResolveToo, hOwn⟩

end FilterTree

end Relmap
