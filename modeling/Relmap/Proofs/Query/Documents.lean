import Relmap.Proofs.Outcome
import Relmap.Query.FilterDocument

/-
  Which documents are filters, and which filter each one is.

  A document of a node is accepted if its members have the
  shapes that nodes have, at every depth, and the tree that
  is read has the parts that the document shows, in their
  order. Only the member that negates a node may be anything:
  what is no boolean is passed over.

  Main declarations:
    * `Json.IsNode`
    * `Json.WritesNode`
    * `FilterTree.ofJson_eq_ok_iff`
    * `FilterTree.exists_ofJson_iff_and_writesNode`
    * `FilterTree.exists_negation_passed_over`
-/

------------------------------------------------------------
-- Literals In Documents
------------------------------------------------------------

namespace Relmap

namespace Json

/- A value that holds no object at any depth. -/
inductive IsPlain : Json → Prop where
  | null : IsPlain .null
  | bool (value : Bool) : IsPlain (.bool value)
  | number (value : Json.Number) : IsPlain (.number value)
  | string (text : String) : IsPlain (.string text)
  | array
      {items : List Json}
      (hItems : ∀ item ∈ items, IsPlain item) :
      IsPlain (.array items)

/-
  The literal that a value writes. A whole number keeps its
  kind if it has sixty-four signed bits.
-/
inductive WritesValue : Json → Value → Prop where
  | null : WritesValue .null .null
  | bool (value : Bool) :
      WritesValue (.bool value) (.bool value)
  | whole
      {n : Int}
      (hFits : -twoTo 63 ≤ n ∧ n < twoTo 63) :
      WritesValue (.number (.integer n)) (.int64 (.ofInt n))
  | large
      {n : Int}
      (hLarge : ¬ (-twoTo 63 ≤ n ∧ n < twoTo 63)) :
      WritesValue (.number (.integer n)) (.float64 (.ofInt n))
  | double (x : Double) :
      WritesValue (.number (.double x)) (.float64 x)
  | string (text : String) :
      WritesValue (.string text) (.string text)
  | array
      {items : List Json}
      {values : List Value}
      (hItems : List.Forall₂ WritesValue items values) :
      WritesValue (.array items) (.list values)

theorem sizeOf_lt_array
    {items : List Json}
    {item : Json}
    (hItem : item ∈ items) :
    sizeOf item < sizeOf (Json.array items) := by
  have hLess := List.sizeOf_lt_of_mem hItem
  simp only [array.sizeOf_spec]
  omega

end Json

namespace Value

theorem ofJsonItems_eq_mapM (items : List Json) :
    ofJsonItems items = items.mapM ofJson := by
  induction items with
  | nil => rfl
  | cons item rest ih =>
      rw [ofJsonItems, List.mapM_cons, ih]

/- A number is read as the literal that it writes. -/
theorem writesValue_ofNumber_iff
    {number : Json.Number}
    {value : Value} :
    ofNumber number = value ↔
      (Json.number number).WritesValue value := by
  cases number with
  | double x =>
      constructor
      · rintro rfl
        exact .double x
      · rintro ⟨⟩
        rfl
  | integer n =>
      by_cases hFits : -twoTo 63 ≤ n ∧ n < twoTo 63
      · rw [ofNumber, if_pos hFits]
        constructor
        · rintro rfl
          exact .whole hFits
        · intro hWrites
          cases hWrites with
          | whole _ => rfl
          | large hLarge => exact absurd hFits hLarge
      · rw [ofNumber, if_neg hFits]
        constructor
        · rintro rfl
          exact .large hFits
        · intro hWrites
          cases hWrites with
          | whole hOther => exact absurd hOther hFits
          | large _ => rfl

/- A value is read as the literal that it writes. -/
theorem ofJson_eq_ok_iff
    {json : Json}
    {value : Value} :
    ofJson json = .ok value ↔ json.WritesValue value := by
  cases json with
  | null =>
      constructor
      · rintro ⟨⟩
        exact .null
      · rintro ⟨⟩
        rfl
  | bool flag =>
      constructor
      · rintro ⟨⟩
        exact .bool flag
      · rintro ⟨⟩
        rfl
  | number number =>
      rw [ofJson, Except.ok.injEq, writesValue_ofNumber_iff]
  | string text =>
      constructor
      · rintro ⟨⟩
        exact .string text
      · rintro ⟨⟩
        rfl
  | array items =>
      have hEach (values : List Value) :
          List.Forall₂ (fun item other => ofJson item = .ok other)
              items values ↔
            List.Forall₂ Json.WritesValue items values :=
        List.Forall₂.congr_of_mem
          fun item hItem other => ofJson_eq_ok_iff
      rw [ofJson, ofJsonItems_eq_mapM, Except.map_eq_ok_iff]
      simp only [List.mapM_eq_ok_iff, hEach]
      constructor
      · rintro ⟨values, hValues, rfl⟩
        exact .array hValues
      · intro hWrites
        cases hWrites with
        | array hValues => exact ⟨_, hValues, rfl⟩
  | object members =>
      constructor
      · rintro ⟨⟩
      · rintro ⟨⟩
termination_by sizeOf json
decreasing_by
  exact Json.sizeOf_lt_array hItem

/- A value has a literal exactly if it holds no object. -/
theorem exists_ofJson_iff
    {json : Json} :
    (∃ value, ofJson json = .ok value) ↔ json.IsPlain := by
  cases json with
  | null => exact ⟨fun _ => .null, fun _ => ⟨_, rfl⟩⟩
  | bool flag => exact ⟨fun _ => .bool flag, fun _ => ⟨_, rfl⟩⟩
  | number number =>
      exact ⟨fun _ => .number number, fun _ => ⟨_, rfl⟩⟩
  | string text =>
      exact ⟨fun _ => .string text, fun _ => ⟨_, rfl⟩⟩
  | array items =>
      have hEach (item : Json) (hItem : item ∈ items) :
          (∃ value, ofJson item = .ok value) ↔ item.IsPlain :=
        exists_ofJson_iff
      have hItems :
          (∃ values, items.mapM ofJson = .ok values) ↔
            ∀ item ∈ items, item.IsPlain := by
        rw [List.exists_mapM_eq_ok_iff]
        exact forall₂_congr hEach
      rw [ofJson, ofJsonItems_eq_mapM]
      simp only [Except.map_eq_ok_iff]
      constructor
      · rintro ⟨_, values, hValues, _⟩
        exact .array (hItems.mp ⟨values, hValues⟩)
      · intro hPlain
        cases hPlain with
        | array hPlain =>
            rcases hItems.mpr hPlain with ⟨values, hValues⟩
            exact ⟨_, values, hValues, rfl⟩
  | object members =>
      constructor
      · rintro ⟨_, ⟨⟩⟩
      · rintro ⟨⟩
termination_by sizeOf json
decreasing_by
  exact Json.sizeOf_lt_array hItem

end Value

end Relmap

------------------------------------------------------------
-- Right-Hand Sides In Documents
------------------------------------------------------------

namespace Relmap

namespace Json

/-
  A right-hand side of a constraint: a value without an
  object, or an object with a model and such a key.
-/
def IsOperand (json : Json) : Prop :=
  json.IsPlain ∨
    ∃ members model key,
      json = .object members ∧
        member? "model" members = some (.string model) ∧
        member? "pk" members = some key ∧
        key.IsPlain

/- What such a value or object writes. -/
inductive WritesOperand : Json → FilterValue → Prop where
  | literal
      {json : Json}
      {value : Value}
      (hValue : json.WritesValue value) :
      WritesOperand json (.literal value)
  | instanceOf
      {members : List (String × Json)}
      {model : String}
      {key : Json}
      {value : Value}
      (hModel :
        member? "model" members = some (.string model))
      (hKey : member? "pk" members = some key)
      (hValue : key.WritesValue value) :
      WritesOperand (.object members)
        (.instanceOf model value)

end Json

/- A fault of a literal is one of the document. -/
theorem Value.ofJsonChecked_eq_ok_iff
    {json : Json}
    {value : Value} :
    ofJsonChecked json = .ok value ↔
      json.WritesValue value := by
  rw [← ofJson_eq_ok_iff, ofJsonChecked]
  cases ofJson json with
  | error fault => simp [Except.mapError]
  | ok other => simp [Except.mapError]

theorem Value.exists_ofJsonChecked_iff
    {json : Json} :
    (∃ value, ofJsonChecked json = .ok value) ↔
      json.IsPlain := by
  simp only [ofJsonChecked_eq_ok_iff, ← ofJson_eq_ok_iff,
    exists_ofJson_iff]

namespace FilterValue

/- An object is read as an instance of a model. -/
theorem ofJson_object_eq_ok_iff
    {members : List (String × Json)}
    {operand : FilterValue} :
    ofJson (.object members) = .ok operand ↔
      ∃ model key,
        Json.member? "model" members = some (.string model) ∧
          Json.member? "pk" members = some key ∧
          ∃ value,
            Value.ofJsonChecked key = .ok value ∧
              operand = .instanceOf model value := by
  rw [ofJson]
  split
  · rename_i model key hModel hKey
    rw [Except.map_eq_ok_iff]
    constructor
    · rintro ⟨value, hValue, rfl⟩
      exact ⟨model, key, hModel, hKey, value, hValue, rfl⟩
    · rintro ⟨other, found, hOther, hFound, value, hValue, rfl⟩
      rw [hModel] at hOther
      rw [hKey] at hFound
      cases hOther
      cases hFound
      exact ⟨value, hValue, rfl⟩
  · rename_i hOther
    constructor
    · rintro ⟨⟩
    · rintro ⟨model, key, hModel, hKey, _⟩
      exact (hOther model key hModel hKey).elim

/- Any other value is read as a literal. -/
theorem ofJson_of_not_object
    {json : Json}
    (hOther : ∀ members, json ≠ .object members) :
    ofJson json = (Value.ofJsonChecked json).map .literal := by
  cases json with
  | object members => exact absurd rfl (hOther members)
  | _ => rfl

/- An operand is read as what it writes. -/
theorem ofJson_eq_ok_iff
    {json : Json}
    {operand : FilterValue} :
    ofJson json = .ok operand ↔
      json.WritesOperand operand := by
  by_cases hObject : ∃ members, json = .object members
  · rcases hObject with ⟨members, rfl⟩
    rw [ofJson_object_eq_ok_iff]
    constructor
    · rintro ⟨model, key, hModel, hKey, value, hValue, rfl⟩
      exact .instanceOf hModel hKey
        (Value.ofJsonChecked_eq_ok_iff.mp hValue)
    · intro hWrites
      cases hWrites with
      | literal hValue => cases hValue
      | instanceOf hModel hKey hValue =>
          exact ⟨_, _, hModel, hKey, _,
            Value.ofJsonChecked_eq_ok_iff.mpr hValue, rfl⟩
  · rw [ofJson_of_not_object (not_exists.mp hObject),
      Except.map_eq_ok_iff]
    constructor
    · rintro ⟨value, hValue, rfl⟩
      exact .literal (Value.ofJsonChecked_eq_ok_iff.mp hValue)
    · intro hWrites
      cases hWrites with
      | literal hValue =>
          exact ⟨_, Value.ofJsonChecked_eq_ok_iff.mpr hValue,
            rfl⟩
      | instanceOf _ _ _ => exact (hObject ⟨_, rfl⟩).elim

theorem exists_ofJson_iff
    {json : Json} :
    (∃ operand, ofJson json = .ok operand) ↔
      json.IsOperand := by
  unfold Json.IsOperand
  simp only [← Value.exists_ofJsonChecked_iff,
    Value.ofJsonChecked_eq_ok_iff, ofJson_eq_ok_iff]
  constructor
  · rintro ⟨operand, hWrites⟩
    cases hWrites with
    | literal hValue => exact .inl ⟨_, hValue⟩
    | instanceOf hModel hKey hValue =>
        exact .inr ⟨_, _, _, rfl, hModel, hKey, _, hValue⟩
  · rintro (⟨value, hValue⟩ |
      ⟨members, model, key, rfl, hModel, hKey, value, hValue⟩)
    · exact ⟨_, .literal hValue⟩
    · exact ⟨_, .instanceOf hModel hKey hValue⟩

end FilterValue

end Relmap

------------------------------------------------------------
-- Nodes In Documents
------------------------------------------------------------

namespace Relmap

namespace Json

/- The nodes that the members of a node list. -/
def nodesOf (members : List (String × Json)) : List Json :=
  match member? "children" members with
  | some (.array items) => items
  | _ => []

/- The keys with right-hand sides that they list. -/
def entriesOf
    (members : List (String × Json)) :
    List (String × Json) :=
  match member? "filters" members with
  | some (.object entries) => entries
  | _ => []

/- The join type that they name. -/
def joinOf (members : List (String × Json)) : JoinType :=
  match member? "join_type" members with
  | some (.string "OR") => .or
  | _ => .and

/-
  A document of a node, each of whose members may be missing.
  What stands for the negation has to be a `flag`.
-/
inductive IsNode (flag : Json → Prop) : Json → Prop where
  | object
      {members : List (String × Json)}
      (hJoin :
        ∀ json ∈ member? "join_type" members,
          json = .string "AND" ∨ json = .string "OR")
      (hArray :
        ∀ json ∈ member? "children" members,
          ∃ items, json = .array items)
      (hNodes : ∀ item ∈ nodesOf members, IsNode flag item)
      (hObject :
        ∀ json ∈ member? "filters" members,
          ∃ entries, json = .object entries)
      (hOperands :
        ∀ entry ∈ entriesOf members, entry.2.IsOperand)
      (hFlag :
        ∀ json ∈ member? "negated" members, flag json) :
      IsNode flag (.object members)

/- The boolean values. -/
def IsBool (json : Json) : Prop :=
  ∃ value, json = .bool value

end Json

/-
  A node has these children and constraints: as they are, or
  with the constraints in a leading child of the same join
  type if there are both.
-/
structure FilterTree.Holds
    (tree : FilterTree)
    (children : List FilterTree)
    (constraints : List Constraint) : Prop where
  apart :
    children = [] ∨ constraints = [] →
      tree.children = children ∧
        tree.constraints = constraints ∧ tree.wraps = false
  wrapped :
    children ≠ [] → constraints ≠ [] →
      tree.children =
          leaf tree.joinType constraints :: children ∧
        tree.constraints = [] ∧ tree.wraps = true

/-
  The tree that a document writes: children and constraints
  in their order, the join type, and a negation if the
  document says `true`.
-/
inductive Json.WritesNode : Json → FilterTree → Prop where
  | object
      {members : List (String × Json)}
      {tree : FilterTree}
      {children : List FilterTree}
      {constraints : List Constraint}
      (hChildren :
        List.Forall₂ WritesNode (nodesOf members) children)
      (hConstraints :
        List.Forall₂
          (fun entry constraint =>
            entry.1 = constraint.1 ∧
              entry.2.WritesOperand constraint.2)
          (entriesOf members) constraints)
      (hHolds : tree.Holds children constraints)
      (hJoin : tree.joinType = joinOf members)
      (hNegated :
        tree.negated = true ↔
          member? "negated" members = some (.bool true)) :
      WritesNode (.object members) tree

end Relmap

------------------------------------------------------------
-- Members Of A Node
------------------------------------------------------------

namespace Relmap

namespace Json

variable {members : List (String × Json)}

theorem sizeOf_lt_of_member?
    {name : String}
    {json : Json}
    (hJson : member? name members = some json) :
    sizeOf json < sizeOf members := by
  induction members with
  | nil => cases hJson
  | cons member rest ih =>
      rcases member with ⟨key, value⟩
      rw [member?] at hJson
      simp only [List.cons.sizeOf_spec, Prod.mk.sizeOf_spec]
      split at hJson
      · cases hJson
        omega
      · have hRest := ih hJson
        omega

/- A node is larger than the nodes that it lists. -/
theorem sizeOf_lt_object
    {item : Json}
    (hItem : item ∈ nodesOf members) :
    sizeOf item < sizeOf (Json.object members) := by
  unfold nodesOf at hItem
  split at hItem
  · rename_i items hChildren
    have hInner := sizeOf_lt_array hItem
    have hOuter := sizeOf_lt_of_member? hChildren
    simp only [object.sizeOf_spec]
    omega
  · cases hItem

end Json

namespace FilterTree

variable {members : List (String × Json)}

/- The join type is read as the one that is named. -/
theorem joinTypeOf_eq_ok_iff
    {joinType : JoinType} :
    joinTypeOf members = .ok joinType ↔
      (∀ json ∈ Json.member? "join_type" members,
        json = .string "AND" ∨ json = .string "OR") ∧
      joinType = Json.joinOf members := by
  unfold joinTypeOf Json.joinOf
  cases Json.member? "join_type" members with
  | none => simp [eq_comm]
  | some json =>
      cases json with
      | string text =>
          by_cases hAnd : text = "AND"
          · simp [JoinType.ofText, hAnd, eq_comm]
          · by_cases hOr : text = "OR"
            · simp [JoinType.ofText, hOr, eq_comm]
            · simp [JoinType.ofText, hAnd, hOr]
      | _ => simp

theorem ofJsonItems_eq_mapM (items : List Json) :
    ofJsonItems items = items.mapM ofJson := by
  induction items with
  | nil => rfl
  | cons item rest ih =>
      rw [ofJsonItems, List.mapM_cons, ih]

/- The children are read from the first member of the name. -/
theorem childrenOfMembers_eq
    (members : List (String × Json)) :
    childrenOfMembers members =
      match Json.member? "children" members with
      | some json => childrenOfJson json
      | none => .ok [] := by
  induction members with
  | nil => rfl
  | cons member rest ih =>
      rcases member with ⟨name, json⟩
      rw [childrenOfMembers, Json.member?, ih]
      split <;> rfl

/- They are read one by one. -/
theorem childrenOfMembers_eq_ok_iff
    {children : List FilterTree} :
    childrenOfMembers members = .ok children ↔
      (∀ json ∈ Json.member? "children" members,
        ∃ items, json = .array items) ∧
      List.Forall₂ (fun item child => ofJson item = .ok child)
        (Json.nodesOf members) children := by
  rw [childrenOfMembers_eq]
  unfold Json.nodesOf
  cases Json.member? "children" members with
  | none => simp [eq_comm]
  | some json =>
      cases json with
      | array items =>
          simp [childrenOfJson, ofJsonItems_eq_mapM,
            List.mapM_eq_ok_iff]
      | _ => simp [childrenOfJson]

theorem constraintsOfMembers_eq_mapM
    (entries : List (String × Json)) :
    constraintsOfMembers entries =
      entries.mapM fun entry =>
        (FilterValue.ofJson entry.2).map (entry.1, ·) := by
  induction entries with
  | nil => rfl
  | cons entry rest ih =>
      rcases entry with ⟨key, json⟩
      rw [constraintsOfMembers, List.mapM_cons, ih]
      cases FilterValue.ofJson json with
      | error fault => rfl
      | ok value => rfl

/- So are the constraints. -/
theorem constraintsOf_eq_ok_iff
    {constraints : List Constraint} :
    constraintsOf members = .ok constraints ↔
      (∀ json ∈ Json.member? "filters" members,
        ∃ entries, json = .object entries) ∧
      List.Forall₂
        (fun entry constraint =>
          entry.1 = constraint.1 ∧
            entry.2.WritesOperand constraint.2)
        (Json.entriesOf members) constraints := by
  have hEach (entry : String × Json) (constraint : Constraint) :
      (FilterValue.ofJson entry.2).map (entry.1, ·) =
          .ok constraint ↔
        entry.1 = constraint.1 ∧
          entry.2.WritesOperand constraint.2 := by
    rcases constraint with ⟨key, operand⟩
    simp [Except.map_eq_ok_iff, FilterValue.ofJson_eq_ok_iff,
      and_comm]
  unfold constraintsOf Json.entriesOf
  cases Json.member? "filters" members with
  | none => simp [eq_comm]
  | some json =>
      cases json with
      | object entries =>
          simp [constraintsOfMembers_eq_mapM,
            List.mapM_eq_ok_iff, hEach]
      | _ => simp

/- Constraints can be read if their right-hand sides can. -/
theorem exists_constraints_iff :
    (∃ constraints : List Constraint,
      List.Forall₂
        (fun entry constraint =>
          entry.1 = constraint.1 ∧
            entry.2.WritesOperand constraint.2)
        (Json.entriesOf members) constraints) ↔
      ∀ entry ∈ Json.entriesOf members,
        entry.2.IsOperand := by
  simp only [← FilterValue.exists_ofJson_iff,
    FilterValue.ofJson_eq_ok_iff]
  induction Json.entriesOf members with
  | nil => simp
  | cons entry rest ih =>
      rw [List.forall_mem_cons, ← ih]
      simp only [List.forall₂_cons_left_iff]
      constructor
      · rintro ⟨_, constraint, others, ⟨_, hOperand⟩, hRest, _⟩
        exact ⟨⟨_, hOperand⟩, others, hRest⟩
      · rintro ⟨⟨operand, hOperand⟩, others, hRest⟩
        exact ⟨_, (entry.1, operand), others, ⟨rfl, hOperand⟩,
          hRest, rfl⟩

theorem negatedOf_eq_true_iff :
    negatedOf members = true ↔
      Json.member? "negated" members = some (.bool true) := by
  unfold negatedOf
  split
  · rename_i value hNegated
    simp [hNegated]
  · rename_i hOther
    constructor
    · rintro ⟨⟩
    · intro hTrue
      exact (hOther true hTrue).elim

/- A node of parts holds them, and holds them only. -/
theorem eq_ofParts_iff
    {tree : FilterTree}
    {children : List FilterTree}
    {joinType : JoinType}
    {constraints : List Constraint}
    {negated : Bool} :
    tree =
        { ofParts children joinType constraints with
          negated := negated } ↔
      tree.Holds children constraints ∧
        tree.joinType = joinType ∧ tree.negated = negated := by
  rcases tree with ⟨inner, own, join, flag, wraps⟩
  unfold ofParts
  constructor
  · intro hTree
    split at hTree
    · rename_i hEmpty
      cases hTree
      refine ⟨⟨fun _ => ⟨rfl, rfl, rfl⟩, ?_⟩, rfl, rfl⟩
      intro hChildren hConstraints
      simp [hChildren, hConstraints] at hEmpty
    · rename_i hBoth
      cases hTree
      refine ⟨⟨?_, fun _ _ => ⟨rfl, rfl, rfl⟩⟩, rfl, rfl⟩
      intro hEmpty
      simp [hEmpty] at hBoth
  · rintro ⟨hHolds, rfl, rfl⟩
    by_cases hEmpty : children = [] ∨ constraints = []
    · rcases hHolds.apart hEmpty with ⟨rfl, rfl, rfl⟩
      rw [if_pos (by simpa using hEmpty)]
    · rcases not_or.mp hEmpty with ⟨hChildren, hConstraints⟩
      have hParts := hHolds.wrapped hChildren hConstraints
      dsimp only at hParts
      rcases hParts with ⟨rfl, rfl, rfl⟩
      rw [if_neg (by simpa using hEmpty)]

end FilterTree

end Relmap

------------------------------------------------------------
-- Trees Of Documents
------------------------------------------------------------

namespace Relmap

namespace FilterTree

/- What is read from an object, member by member. -/
theorem ofJson_object_eq_ok_iff
    {members : List (String × Json)}
    {tree : FilterTree} :
    ofJson (.object members) = .ok tree ↔
      ∃ children constraints,
        childrenOfMembers members = .ok children ∧
          constraintsOf members = .ok constraints ∧
          (∀ json ∈ Json.member? "join_type" members,
            json = .string "AND" ∨ json = .string "OR") ∧
          tree.Holds children constraints ∧
          tree.joinType = Json.joinOf members ∧
          (tree.negated = true ↔
            Json.member? "negated" members =
              some (.bool true)) := by
  simp only [ofJson, Except.bind_eq_ok_iff,
    joinTypeOf_eq_ok_iff, pure, Except.pure, Except.ok.injEq,
    @eq_comm _ _ tree, eq_ofParts_iff, ← negatedOf_eq_true_iff,
    ← Bool.eq_iff_iff]
  constructor
  · rintro ⟨joinType, ⟨hNamed, rfl⟩, children, hChildren,
      constraints, hConstraints, hHolds, hJoin, hNegated⟩
    exact ⟨children, constraints, hChildren, hConstraints,
      hNamed, hHolds, hJoin, hNegated⟩
  · rintro ⟨children, constraints, hChildren, hConstraints,
      hNamed, hHolds, hJoin, hNegated⟩
    exact ⟨_, ⟨hNamed, rfl⟩, children, hChildren, constraints,
      hConstraints, hHolds, hJoin, hNegated⟩

/-
  The tree that is read from a document is the one that the
  document writes, and it is read from documents of nodes,
  whatever stands for the negation.
-/
theorem ofJson_eq_ok_iff
    {json : Json}
    {tree : FilterTree} :
    ofJson json = .ok tree ↔
      json.IsNode (fun _ => True) ∧ json.WritesNode tree := by
  cases json with
  | object members =>
      have hEach (children : List FilterTree) :
          List.Forall₂
              (fun item child => ofJson item = .ok child)
              (Json.nodesOf members) children ↔
            (∀ item ∈ Json.nodesOf members,
              item.IsNode fun _ => True) ∧
            List.Forall₂ Json.WritesNode
              (Json.nodesOf members) children := by
        rw [← List.forall₂_and_left]
        exact List.Forall₂.congr_of_mem
          fun item hItem child => ofJson_eq_ok_iff
      simp only [ofJson_object_eq_ok_iff,
        childrenOfMembers_eq_ok_iff, constraintsOf_eq_ok_iff,
        hEach]
      constructor
      · rintro ⟨children, constraints,
          ⟨hArray, hNodes, hChildren⟩,
          ⟨hObject, hConstraints⟩, hNamed, hHolds, hJoin,
          hNegated⟩
        have hOperands :=
          exists_constraints_iff.mp ⟨_, hConstraints⟩
        exact ⟨.object hNamed hArray hNodes hObject hOperands
            fun _ _ => trivial,
          .object hChildren hConstraints hHolds hJoin hNegated⟩
      · rintro ⟨hNode, hWrites⟩
        cases hNode with
        | object hNamed hArray hNodes hObject hOperands _ =>
        cases hWrites with
        | object hChildren hConstraints hHolds hJoin
            hNegated =>
        exact ⟨_, _, ⟨hArray, hNodes, hChildren⟩,
          ⟨hObject, hConstraints⟩, hNamed, hHolds, hJoin,
          hNegated⟩
  | _ =>
      constructor
      · intro hTree
        simp [ofJson] at hTree
      · rintro ⟨hNode, _⟩
        cases hNode
termination_by sizeOf json
decreasing_by
  exact Json.sizeOf_lt_object hItem

/- Every document of a node is read. -/
theorem exists_ofJson_of_isNode
    {flag : Json → Prop}
    {json : Json}
    (hNode : json.IsNode flag) :
    ∃ tree, ofJson json = .ok tree := by
  induction hNode with
  | @object members hNamed hArray _ hObject hOperands _ ih =>
      have hItems :
          ∃ children,
            (Json.nodesOf members).mapM ofJson =
              .ok children :=
        List.exists_mapM_eq_ok_iff.mpr ih
      rcases hItems with ⟨children, hItems⟩
      rw [List.mapM_eq_ok_iff] at hItems
      rcases exists_constraints_iff.mpr hOperands with
        ⟨constraints, hConstraints⟩
      let tree : FilterTree :=
        { ofParts children (Json.joinOf members) constraints with
          negated := negatedOf members }
      rcases eq_ofParts_iff.mp (Eq.refl tree) with
        ⟨hHolds, hJoin, hNegated⟩
      refine ⟨tree, ofJson_object_eq_ok_iff.mpr
        ⟨children, constraints,
          childrenOfMembers_eq_ok_iff.mpr ⟨hArray, hItems⟩,
          constraintsOf_eq_ok_iff.mpr ⟨hObject, hConstraints⟩,
          hNamed, hHolds, hJoin, ?_⟩⟩
      rw [hNegated, negatedOf_eq_true_iff]

/-
  A tree is read exactly from the documents of nodes, where
  anything may stand for the negation, and it is the tree
  that the document writes.
-/
theorem exists_ofJson_iff_and_writesNode (json : Json) :
    ((∃ tree, ofJson json = .ok tree) ↔
      json.IsNode fun _ => True) ∧
    ∀ tree, ofJson json = .ok tree → json.WritesNode tree := by
  constructor
  · constructor
    · rintro ⟨tree, hTree⟩
      exact (ofJson_eq_ok_iff.mp hTree).1
    · exact exists_ofJson_of_isNode
  · intro tree hTree
    exact (ofJson_eq_ok_iff.mp hTree).2

/- Books by number and author, or without a title. -/
private def bookSearch : Json :=
  .object
    [("join_type", .string "OR"),
      ("filters",
        .object
          [("isbn__in",
              .array
                [.number (.integer 7),
                  .number (.integer (twoTo 63))]),
            ("author",
              .object
                [("pk", .null), ("model", .string "Author")])]),
      ("negated", .number (.integer 1)),
      ("children",
        .array
          [.object
            [("filters",
                .object [("title", .string "Emma")]),
              ("negated", .bool true)]])]

theorem exists_ofJson_iff_and_writesNode_bookSearch :
    (bookSearch.IsNode fun _ => True) ∧
      ∃ tree,
        bookSearch.WritesNode tree ∧
          tree.wraps = true ∧ tree.negated = false ∧
          tree.children.map FilterTree.negated =
            [false, true] ∧
          tree.children.map
              (fun child => child.constraints.map Prod.fst) =
            [["isbn__in", "author"], ["title"]] := by
  have hRead : (ofJson bookSearch).toOption.any (fun tree =>
      tree.wraps && !tree.negated &&
        tree.children.map FilterTree.negated =
            [false, true] &&
        tree.children.map
            (fun child => child.constraints.map Prod.fst) =
          [["isbn__in", "author"], ["title"]]) = true := by
    decide +kernel
  rcases Except.exists_of_any hRead with ⟨tree, hTree, hTest⟩
  have hBoth := exists_ofJson_iff_and_writesNode bookSearch
  simp only [Bool.and_eq_true, Bool.not_eq_true',
    decide_eq_true_eq] at hTest
  exact ⟨hBoth.1.mp ⟨tree, hTree⟩, tree, hBoth.2 tree hTree,
    hTest.1.1.1, hTest.1.1.2, hTest.1.2, hTest.2⟩

/- Books of another name, with the negation in quotes. -/
private def quotedNegation : Json :=
  .object
    [("filters", .object [("title", .string "Emma")]),
      ("negated", .string "true")]

/-
  A negation that is no boolean is passed over: the node is
  read as if it asked for the books of that name.
-/
theorem exists_negation_passed_over :
    ofJson quotedNegation =
        .ok (constraint "title" (.literal (.string "Emma"))) ∧
      ¬ quotedNegation.IsNode Json.IsBool := by
  constructor
  · rfl
  · intro hNode
    cases hNode with
    | object _ _ _ _ _ hFlag =>
        rcases hFlag (.string "true") rfl with ⟨value, hValue⟩
        cases hValue

end FilterTree

end Relmap
