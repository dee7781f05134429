import Mathlib.Data.List.Induction
import Relmap.Proofs.Catalog.FilterTarget
import Relmap.Proofs.Query.Route
import Relmap.Proofs.Query.Subterms

/-
  The passages of a query from table to table.

  A relation is followed by one passage, or by two if there
  is a link table between. A key takes the passages of the
  relations that it hops along; in the end, a registered
  filter on a relation takes the first passage of it, and an
  aggregate over a relation takes all. Put together they run
  from the table of the model to the table that the key
  compares, and the joins of the key are those of the
  passages, one by one.

  Main declarations:
    * `Passage`
    * `Catalog.IsJoinOf`
    * `Catalog.Runs`
    * `Catalog.Runs.unique`
    * `Context.Takes`
    * `Context.takes_of_resolveKey`
-/

------------------------------------------------------------
-- Passages
------------------------------------------------------------

namespace Relmap

/- Where a passage leads: to a link table, or to a target. -/
inductive Leg where
  | link
  | target
  deriving DecidableEq

/- A part of the way along a relation of a model. -/
structure Passage where
  origin : Model
  relation : Relation
  leg : Leg

namespace Passage

/- The passages by which a relation is followed. -/
def along
    (origin : Model)
    (relation : Relation) : List Passage :=
  match relation.kind with
  | .manyToMany _ =>
      [⟨origin, relation, .link⟩, ⟨origin, relation, .target⟩]
  | _ => [⟨origin, relation, .target⟩]

/- The table that a passage leaves from. -/
def source (passage : Passage) : String :=
  match passage.relation.kind, passage.leg with
  | .manyToMany link, .target => link.through
  | _, _ => passage.origin.table

end Passage

namespace Catalog

/- The table that a passage enters. -/
def entered?
    (catalog : Catalog)
    (passage : Passage) : Option String :=
  match passage.relation.kind, passage.leg with
  | .manyToMany link, .link => some link.through
  | _, _ =>
      (catalog.model? passage.relation.target).map Model.table

/- The join of a passage compares keys with references. -/
inductive IsJoinOf
    (catalog : Catalog) : Passage → Join → Prop where
  | foreignKey {origin target : Model} {relation : Relation}
      {key : ForeignKey} {column targetKey : String}
      (hKind : relation.kind = .foreignKey key)
      (hTarget :
        catalog.model? relation.target = some target)
      (hColumn : origin.columnOf key.sourceField = .ok column)
      (hKey : target.keyColumn = .ok targetKey) :
      IsJoinOf catalog ⟨origin, relation, .target⟩
        (.onColumns target.table targetKey
          origin.table column)
  | backward {origin target : Model} {relation : Relation}
      {key : BackwardKey} {column originKey : String}
      (hKind : relation.kind = .backward key)
      (hTarget :
        catalog.model? relation.target = some target)
      (hColumn :
        target.columnOf key.relationField = .ok column)
      (hKey : origin.keyColumn = .ok originKey) :
      IsJoinOf catalog ⟨origin, relation, .target⟩
        (.onColumns target.table column
          origin.table originKey)
  | link {origin : Model} {relation : Relation}
      {link : ManyToMany} {originKey : String}
      (hKind : relation.kind = .manyToMany link)
      (hKey : origin.keyColumn = .ok originKey) :
      IsJoinOf catalog ⟨origin, relation, .link⟩
        (.onColumns link.through link.backwardKey
          origin.table originKey)
  | far {origin target : Model} {relation : Relation}
      {link : ManyToMany} {targetKey : String}
      (hKind : relation.kind = .manyToMany link)
      (hTarget :
        catalog.model? relation.target = some target)
      (hKey : target.keyColumn = .ok targetKey) :
      IsJoinOf catalog ⟨origin, relation, .target⟩
        (.onColumns target.table targetKey
          link.through link.forwardKey)

variable {catalog : Catalog}
variable {passage : Passage}
variable {join other : Join}

/- A passage has one join at most. -/
theorem IsJoinOf.unique
    (hJoin : catalog.IsJoinOf passage join)
    (hOther : catalog.IsJoinOf passage other) :
    join = other := by
  cases hJoin <;> cases hOther <;> grind

/- The join of a passage is on the table that it enters. -/
theorem IsJoinOf.entered?_eq
    (hJoin : catalog.IsJoinOf passage join) :
    catalog.entered? passage = some join.table := by
  cases hJoin with
  | foreignKey hKind hTarget _ _
  | backward hKind hTarget _ _
  | far hKind hTarget _ =>
      simp [entered?, hKind, hTarget, Join.onColumns]
  | link hKind _ => simp [entered?, hKind, Join.onColumns]

/- Its condition is on both tables of the passage. -/
theorem IsJoinOf.areOver
    (hJoin : catalog.IsJoinOf passage join) :
    Term.AreOver [passage.source, join.table]
      join.condition.subterms := by
  have hColumns :
      ∀ table column knownTable knownColumn,
        Term.AreOver [knownTable, table]
          (Join.onColumns table column knownTable
            knownColumn).condition.subterms := by
    intro table column knownTable knownColumn
    rw [Join.onColumns, Criterion.subterms_eqTerm,
      Term.areOver_append_iff]
    exact ⟨Term.areOver_qualified (by simp),
      Term.areOver_qualified (by simp)⟩
  cases hJoin with
  | foreignKey hKind _ _ _
  | backward hKind _ _ _
  | link hKind _
  | far hKind _ _ =>
      simp only [Passage.source, hKind]
      exact hColumns _ _ _ _

end Catalog

end Relmap

------------------------------------------------------------
-- Ways
------------------------------------------------------------

namespace Relmap

namespace Catalog

/-
  Passages lead from a table to a table, with their joins:
  each leaves from the table that the one before it entered.
-/
inductive Follows
    (catalog : Catalog) :
    String → List Passage → List Join → String → Prop where
  | nil (table : String) : Follows catalog table [] [] table
  | cons {passage : Passage} {rest : List Passage}
      {join : Join} {joins : List Join}
      {start last : String}
      (hSource : passage.source = start)
      (hJoin : catalog.IsJoinOf passage join)
      (hRest : Follows catalog join.table rest joins last) :
      Follows catalog start (passage :: rest)
        (join :: joins) last

variable {catalog : Catalog}
variable {start middle last : String}
variable {first second : List Passage}

theorem Follows.append
    {left right : List Join}
    (hFirst : catalog.Follows start first left middle)
    (hSecond : catalog.Follows middle second right last) :
    catalog.Follows start (first ++ second) (left ++ right)
      last := by
  induction hFirst with
  | nil => exact hSecond
  | cons hSource hJoin _ ih =>
      exact .cons hSource hJoin (ih hSecond)

/- The beginning of a way is a way, and so is the rest. -/
theorem Follows.of_append
    {joins : List Join}
    (hFollows :
      catalog.Follows start (first ++ second) joins last) :
    ∃ left right middle,
      joins = left ++ right ∧
        catalog.Follows start first left middle ∧
        catalog.Follows middle second right last := by
  induction first generalizing start joins with
  | nil => exact ⟨[], joins, start, rfl, .nil _, hFollows⟩
  | cons passage rest ih =>
      cases hFollows with
      | cons hSource hJoin hRest =>
          rcases ih hRest with
            ⟨left, right, middle, rfl, hLeft, hRight⟩
          exact ⟨_ :: left, right, middle, rfl,
            .cons hSource hJoin hLeft, hRight⟩

/- The last passage enters the table where the way ends. -/
theorem Follows.of_concat
    {passage : Passage}
    {joins : List Join}
    (hFollows :
      catalog.Follows start (first ++ [passage]) joins last) :
    catalog.entered? passage = some last ∧
      ∃ others,
        catalog.Follows start first others passage.source := by
  rcases hFollows.of_append with
    ⟨left, right, middle, rfl, hFirst, hLast⟩
  cases hLast with
  | cons hSource hJoin hRest =>
      cases hRest
      cases hSource
      exact ⟨hJoin.entered?_eq, left, hFirst⟩

/- Ways have the joins of their passages. -/
theorem Follows.joins_eq
    {joins : List Join}
    (hFollows : catalog.Follows start first joins last) :
    List.Forall₂ catalog.IsJoinOf first joins := by
  induction hFollows with
  | nil => exact .nil
  | cons _ hJoin _ ih => exact .cons hJoin ih

/- A single passage leads from its source. -/
theorem IsJoinOf.follows
    {passage : Passage}
    {join : Join}
    (hJoin : catalog.IsJoinOf passage join)
    (hSource : passage.source = start) :
    catalog.Follows start [passage] [join] join.table :=
  .cons hSource hJoin (.nil _)

/-
  If every table is entered by one passage only, and the
  table of the start by none, then ways to one table are one
  and the same. The induction is on the way from its end.
-/
theorem Follows.unique
    {Taken : Passage → Prop}
    (hOne :
      ∀ passage, Taken passage → ∀ other, Taken other →
        catalog.entered? passage = catalog.entered? other →
          passage = other)
    (hStart :
      ∀ passage, Taken passage →
        catalog.entered? passage ≠ some start)
    {left right : List Join}
    (hFirst : catalog.Follows start first left last)
    (hSecond : catalog.Follows start second right last)
    (hFirstTaken : ∀ passage ∈ first, Taken passage)
    (hSecondTaken : ∀ passage ∈ second, Taken passage) :
    first = second := by
  induction first using List.reverseRecOn
    generalizing second left right last with
  | nil =>
      cases hFirst
      rcases List.eq_nil_or_concat second with
        rfl | ⟨others, other, rfl⟩
      · rfl
      · rw [List.concat_eq_append] at hSecond hSecondTaken
        exact absurd hSecond.of_concat.1
          (hStart other (hSecondTaken other (by simp)))
  | append_singleton front passage ih =>
      rcases hFirst.of_concat with ⟨hEnters, _, hFront⟩
      have hPassage := hFirstTaken passage (by simp)
      rcases List.eq_nil_or_concat second with
        rfl | ⟨others, other, rfl⟩
      · cases hSecond
        exact absurd hEnters (hStart passage hPassage)
      · rw [List.concat_eq_append] at hSecond hSecondTaken ⊢
        rcases hSecond.of_concat with
          ⟨hEntersToo, _, hOthers⟩
        have hOther := hSecondTaken other (by simp)
        have hSame : passage = other :=
          hOne passage hPassage other hOther
            (hEnters.trans hEntersToo.symm)
        rw [← hSame] at hOthers ⊢
        rw [ih hFront hOthers
          (fun taken hTaken =>
            hFirstTaken taken (by simp [hTaken]))
          (fun taken hTaken =>
            hSecondTaken taken (by simp [hTaken]))]

/- A relation is followed to the table of its target. -/
theorem follows_of_relationJoins
    {origin target : Model}
    {relation : Relation}
    {joins : List Join}
    (hTarget : catalog.model? relation.target = some target)
    (hJoins :
      catalog.relationJoins origin relation = .ok joins) :
    catalog.Follows origin.table
      (Passage.along origin relation) joins target.table := by
  unfold relationJoins at hJoins
  rw [require_eq_ok_iff.mpr hTarget] at hJoins
  unfold Passage.along
  cases hKind : relation.kind with
  | foreignKey key =>
      simp only [hKind, Except.bind_eq_ok_iff] at hJoins
      rcases hJoins with
        ⟨_, hSelf, column, hColumn, targetKey, hKey, hJoins⟩
      cases hSelf
      cases hJoins
      exact (IsJoinOf.foreignKey hKind hTarget hColumn
        hKey).follows (by simp [Passage.source, hKind])
  | backward key =>
      simp only [hKind, Except.bind_eq_ok_iff] at hJoins
      rcases hJoins with
        ⟨_, hSelf, column, hColumn, originKey, hKey, hJoins⟩
      cases hSelf
      cases hJoins
      exact (IsJoinOf.backward hKind hTarget hColumn
        hKey).follows (by simp [Passage.source, hKind])
  | manyToMany link =>
      simp only [hKind, Except.bind_eq_ok_iff] at hJoins
      rcases hJoins with
        ⟨_, hSelf, originKey, hOriginKey, targetKey,
         hTargetKey, hJoins⟩
      cases hSelf
      cases hJoins
      exact .cons (by simp [Passage.source, hKind])
        (.link hKind hOriginKey)
        ((IsJoinOf.far hKind hTarget hTargetKey).follows
          (by simp [Passage.source, hKind, Join.onColumns]))

end Catalog

end Relmap

------------------------------------------------------------
-- Registered Filters
------------------------------------------------------------

namespace Relmap

/- A filter that joins takes one passage of its relation. -/
def FilterTarget.passages
    (target : FilterTarget)
    (model : Model) : List Passage :=
  match target.join, model.relation? target.member with
  | some _, some relation =>
      (Passage.along model relation).take 1
  | _, _ => []

namespace Catalog

variable {catalog : Catalog}
variable {target : FilterTarget}

/- What a relation is compared on is joined by a passage. -/
theorem isJoinOf_of_relationTarget?
    {relation : Relation}
    (model : Model)
    {member : String}
    {lookup : Lookup}
    (hTarget :
      catalog.relationTarget? relation member lookup =
        some target) :
    target.member = member ∧
      ∃ join leg,
        target.join = some join ∧
          (Passage.along model relation).take 1 =
            [⟨model, relation, leg⟩] ∧
          Passage.source ⟨model, relation, leg⟩ =
            model.table ∧
          ∀ key, model.keyColumn = .ok key →
            catalog.IsJoinOf ⟨model, relation, leg⟩
              (.onColumns join.table join.backwardKey
                model.table key) := by
  unfold relationTarget? at hTarget
  cases hKind : relation.kind with
  | foreignKey key => simp [hKind] at hTarget
  | manyToMany link =>
      simp only [hKind] at hTarget
      cases hTarget
      exact ⟨rfl, _, .link, rfl,
        by simp [Passage.along, hKind],
        by simp [Passage.source, hKind],
        fun key hKey => .link hKind hKey⟩
  | backward backward =>
      simp only [hKind, bind, Option.bind_eq_some_iff]
        at hTarget
      rcases hTarget with
        ⟨far, hFar, backing, hBacking, primary, _, hFound⟩
      cases hFound
      have hColumn :
          far.columnOf backward.relationField =
            .ok backing.column := by
        rw [Model.columnOf, hBacking]
      exact ⟨rfl, _, .target, rfl,
        by simp [Passage.along, hKind],
        by simp [Passage.source, hKind],
        fun key hKey => .backward hKind hFar hColumn hKey⟩

/- A registered filter is followed to the table it compares. -/
theorem follows_of_targetJoins
    {model : Model}
    {key : String}
    (hTarget : catalog.filterTarget? model key = some target)
    {joins : List Join}
    (hJoins : Context.targetJoins model target = .ok joins) :
    catalog.Follows model.table (target.passages model) joins
      (target.table model.table) := by
  unfold filterTarget? at hTarget
  dsimp only at hTarget
  cases hField : model.field? (baseAndLookup key).1 with
  | some field =>
      rw [hField] at hTarget
      cases hTarget
      cases hJoins
      exact .nil _
  | none =>
      rw [hField] at hTarget
      rcases Option.bind_eq_some_iff.mp hTarget with
        ⟨relation, hRelation, hCompared⟩
      rcases isJoinOf_of_relationTarget? model hCompared with
        ⟨hMember, join, leg, hJoin, hTaken, hSource, hJoinOf⟩
      rw [Context.targetJoins, hJoin] at hJoins
      rcases Except.bind_eq_ok_iff.mp hJoins with
        ⟨originKey, hKey, hJoins⟩
      cases hJoins
      simp only [FilterTarget.passages, FilterTarget.table,
        hJoin, hMember, hRelation, hTaken]
      exact (hJoinOf originKey hKey).follows hSource

end Catalog

end Relmap

------------------------------------------------------------
-- Computed Columns
------------------------------------------------------------

namespace Relmap

namespace Computed

/- An aggregate over a relation takes all passages of it. -/
def passages
    (computed : Computed)
    (model : Model) : List Passage :=
  match computed with
  | .column _ => []
  | .aggregate _ field _ =>
      if field = "*" then []
      else
        match relationOf? model field with
        | some relation => Passage.along model relation
        | none => []

variable {catalog : Catalog}
variable {model : Model}

/- The column of a field is one of the model. -/
theorem areOver_fieldTerm
    {field : String}
    {term : Term}
    (hTerm : fieldTerm model field = .ok term) :
    Term.AreOver [model.table] term.subterms := by
  unfold fieldTerm at hTerm
  split at hTerm
  · cases hTerm
    exact Term.areOver_qualified (by simp)
  · cases hTerm

/- A computed column is followed to the table it is over. -/
theorem follows_of_resolve
    {computed : Computed}
    {resolved : ResolvedComputed}
    (hResolved :
      computed.resolve catalog model = .ok resolved) :
    ∃ last,
      catalog.Follows model.table (computed.passages model)
          resolved.joins last ∧
        Term.AreOver [last] resolved.term.subterms := by
  cases computed with
  | column field =>
      rcases Except.bind_eq_ok_iff.mp hResolved with
        ⟨term, hTerm, hResolved⟩
      cases hResolved
      exact ⟨model.table, .nil _, areOver_fieldTerm hTerm⟩
  | aggregate function field distinct =>
      have hAggregate :
          ∀ {term : Term} {tables : List String},
            Term.AreOver tables term.subterms →
              Term.AreOver tables
                (Term.aggregate function (some term)
                  distinct).subterms := by
        intro term tables hTerm column hColumn
        rw [Term.subterms, List.mem_cons] at hColumn
        rcases hColumn with hColumn | hColumn
        · cases hColumn
        · exact hTerm column hColumn
      unfold resolve at hResolved
      dsimp only at hResolved
      by_cases hStar : field = "*"
      · rw [if_pos hStar] at hResolved
        cases hResolved
        refine ⟨model.table, ?_, ?_⟩
        · simp only [passages, if_pos hStar]
          exact .nil _
        · intro column hColumn
          simp [Term.subterms] at hColumn
      · rw [if_neg hStar] at hResolved
        cases hRelation : relationOf? model field with
        | some relation =>
            simp only [hRelation, Except.bind_eq_ok_iff]
              at hResolved
            rcases hResolved with
              ⟨target, hTarget, joins, hJoins, key, _,
               hResolved⟩
            cases hResolved
            rw [Catalog.require_eq_ok_iff] at hTarget
            simp only [passages, if_neg hStar, hRelation]
            exact ⟨target.table,
              Catalog.follows_of_relationJoins hTarget hJoins,
              hAggregate (Term.areOver_qualified (by simp))⟩
        | none =>
            simp only [hRelation, Except.bind_eq_ok_iff]
              at hResolved
            rcases hResolved with ⟨term, hTerm, hResolved⟩
            cases hResolved
            simp only [passages, if_neg hStar, hRelation]
            exact ⟨model.table, .nil _,
              hAggregate (areOver_fieldTerm hTerm)⟩

end Computed

end Relmap

------------------------------------------------------------
-- Keys
------------------------------------------------------------

namespace Relmap

namespace Context

/- The passages that a key takes which is no hop. -/
def lastPassages
    (context : Context)
    (model : Model)
    (key : String)
    (value : Value) : List Passage :=
  match context.custom.get? key with
  | some filter =>
      match context.computed.lookup filter.computed with
      | some computed => computed.passages model
      | none => []
  | none =>
      match context.directTarget model key value with
      | .ok (target, _) => target.passages model
      | .error _ => []

/-
  The passages that a constraint takes: those of its hops in
  order, and those of the key that is left.
-/
def Takes
    (context : Context)
    (model : Model)
    (key : String)
    (value : Value)
    (trail : List Passage) : Prop :=
  ∃ hops reached left,
    context.Reaches model key hops reached left ∧
      trail =
        hops.flatMap (fun hop => Passage.along hop.1 hop.2) ++
          context.lastPassages reached left value

variable {context : Context}
variable {model : Model}
variable {key : String}
variable {value : Value}

/- A constraint takes only one trail of passages. -/
theorem Takes.unique
    {trail other : List Passage}
    (hTrail : context.Takes model key value trail)
    (hOther : context.Takes model key value other) :
    trail = other := by
  rcases hTrail with ⟨_, _, _, hReaches, rfl⟩
  rcases hOther with ⟨_, _, _, hOther, rfl⟩
  rcases hReaches.unique hOther with ⟨rfl, rfl, rfl⟩
  rfl

/- The hops of a route lead to the model that is reached. -/
theorem Reaches.follows
    {hops : List (Model × Relation)}
    {reached : Model}
    {left : String}
    (hReaches : context.Reaches model key hops reached left)
    {joins : List (List Join)}
    (hJoins :
      List.Forall₂
        (fun hop found =>
          context.catalog.relationJoins hop.1 hop.2 =
            .ok found)
        hops joins) :
    context.catalog.Follows model.table
      (hops.flatMap fun hop => Passage.along hop.1 hop.2)
      joins.flatten reached.table := by
  induction hReaches generalizing joins with
  | custom _ | direct _ _ =>
      cases hJoins
      exact .nil _
  | hop _ _ hTarget _ ih =>
      cases hJoins with
      | cons hFound hRest =>
          exact (Catalog.follows_of_relationJoins hTarget
            hFound).append (ih hRest)

/- What is compared instead of a key is registered as well. -/
theorem filterTarget?_of_directTarget
    {target : FilterTarget}
    {operand : Value}
    (hTarget :
      context.directTarget model key value =
        .ok (target, operand)) :
    ∃ other,
      context.catalog.filterTarget? model other =
        some target := by
  unfold directTarget at hTarget
  dsimp only at hTarget
  split at hTarget
  · rename_i hFound _
    cases hTarget
    exact ⟨_, hFound⟩
  · split at hTarget
    · rename_i hFound
      cases hTarget
      exact ⟨_, hFound⟩
    · cases hTarget

/-
  A key that is no hop is followed to the table that it
  compares, and to no other.
-/
theorem follows_of_resolveHere
    {part : Modifier}
    (hPart : context.resolveHere model key value = .ok part) :
    ∃ last,
      context.catalog.Follows model.table
          (context.lastPassages model key value)
          part.joins last ∧
        Term.AreOver [last] part.subterms := by
  cases ends_of_resolveHere hPart with
  | custom hCustom hComputed hResolved hCriterion =>
      rcases Computed.follows_of_resolve hResolved with
        ⟨last, hFollows, hTerm⟩
      have hOver :=
        Lookup.areOver_of_criterion hCriterion hTerm
      simp only [lastPassages, hCustom, hComputed]
      refine ⟨last, ?_, ?_⟩
      · split <;> exact hFollows
      · split <;> simpa using hOver
  | direct hCustom hTarget hJoins hCriterion =>
      rcases filterTarget?_of_directTarget hTarget with
        ⟨other, hFound⟩
      have hOver :=
        Lookup.areOver_of_criterion hCriterion
          (Term.areOver_qualified (List.mem_singleton_self _))
      simp only [lastPassages, hCustom, hTarget]
      refine ⟨_, Catalog.follows_of_targetJoins hFound hJoins,
        ?_⟩
      simpa using hOver

/-
  A constraint that resolves takes a trail. Its joins are
  those of the trail, and it compares the table where the
  trail ends.
-/
theorem takes_of_resolveKey
    {value : FilterValue}
    {part : Modifier}
    (hPart : context.resolveKey model key value = .ok part) :
    ∃ trail last,
      context.Takes model key value.identity trail ∧
        context.catalog.Follows model.table trail part.joins
          last ∧
        Term.AreOver [last] part.subterms := by
  rcases exists_route_of_resolveWithin hPart with
    ⟨hops, reached, left, joins, ending, hReaches, hJoins,
     hEnding, rfl⟩
  rcases follows_of_resolveHere hEnding with
    ⟨last, hFollows, hOver⟩
  exact ⟨_, last, ⟨hops, reached, left, hReaches, rfl⟩,
    (hReaches.follows hJoins).append hFollows, hOver⟩

end Context

end Relmap
