import Mathlib.Data.List.Forall2
import Relmap.Error

/-
  Computations that may fail, taken apart.

  A sequence of steps succeeds if every step does, and a
  list of computations succeeds with a list that matches it
  item by item. If none of the steps has faults of a kind
  then the sequence has none.

  Main declarations:
    * `Except.bind_eq_ok_iff`
    * `Except.bind_eq_error_iff`
    * `List.mapM_eq_ok_iff`
    * `List.exists_mapM_eq_ok_iff`
    * `Except.Agree`
    * `List.Forall₂.exists_of_mem_left`
    * `List.Forall₂.congr_of_mem`
    * `List.Forall₂.exists_between`
    * `Except.Lacks`
-/

------------------------------------------------------------
-- Sequences Of Steps
------------------------------------------------------------

namespace Except

variable {ε α β : Type}

/- Two steps succeed exactly if one does after the other. -/
theorem bind_eq_ok_iff
    {first : Except ε α}
    {next : α → Except ε β}
    {result : β} :
    (first >>= next) = .ok result ↔
      ∃ value, first = .ok value ∧
        next value = .ok result := by
  cases first with
  | error fault => simp [bind, Except.bind]
  | ok value => simp [bind, Except.bind]

/- Two steps fail exactly if the first or the second does. -/
theorem bind_eq_error_iff
    {first : Except ε α}
    {next : α → Except ε β}
    {fault : ε} :
    (first >>= next) = .error fault ↔
      first = .error fault ∨
        ∃ value, first = .ok value ∧
          next value = .error fault := by
  cases first with
  | error other => simp [bind, Except.bind]
  | ok value => simp [bind, Except.bind]

/- A mapped computation succeeds exactly if it does. -/
theorem map_eq_ok_iff
    {first : Except ε α}
    {change : α → β}
    {result : β} :
    first.map change = .ok result ↔
      ∃ value, first = .ok value ∧ change value = result := by
  cases first with
  | error fault => simp [Except.map]
  | ok value => simp [Except.map]

/- A result that passes a test is a success. -/
theorem exists_of_any
    {result : Except ε α}
    {test : α → Bool}
    (hAny : result.toOption.any test = true) :
    ∃ value, result = .ok value ∧ test value = true := by
  cases result with
  | error fault => cases hAny
  | ok value => exact ⟨value, rfl, hAny⟩

theorem toOption_eq_some_iff
    {result : Except ε α}
    {value : α} :
    result.toOption = some value ↔ result = .ok value := by
  cases result with
  | error fault => simp [Except.toOption]
  | ok other => simp [Except.toOption]

end Except

------------------------------------------------------------
-- Computations Side By Side
------------------------------------------------------------

namespace Except

variable {ε α β γ δ : Type}

/- Both fail with one fault, or succeed with related results. -/
inductive Agree
    (Related : α → β → Prop) :
    Except ε α → Except ε β → Prop where
  | ok {left : α} {right : β}
      (hRelated : Related left right) :
      Agree Related (.ok left) (.ok right)
  | error (fault : ε) :
      Agree Related (.error fault) (.error fault)

/- A computation agrees with itself. -/
theorem agree_refl (result : Except ε α) :
    Agree (· = ·) result result := by
  cases result with
  | error fault => exact .error fault
  | ok value => exact .ok rfl

theorem Agree.imp
    {Related Other : α → β → Prop}
    {left : Except ε α}
    {right : Except ε β}
    (hAgree : Agree Related left right)
    (hImp :
      ∀ first second,
        Related first second → Other first second) :
    Agree Other left right := by
  cases hAgree with
  | ok hRelated => exact .ok (hImp _ _ hRelated)
  | error fault => exact .error fault

/- What agrees may be told from its results as well. -/
theorem Agree.and_eq
    {Related : α → β → Prop}
    {left : Except ε α}
    {right : Except ε β}
    (hAgree : Agree Related left right) :
    Agree
      (fun first second =>
        left = .ok first ∧ right = .ok second ∧
          Related first second)
      left right := by
  cases hAgree with
  | ok hRelated => exact .ok ⟨rfl, rfl, hRelated⟩
  | error fault => exact .error fault

/- If one succeeds then so does the other. -/
theorem Agree.exists_of_ok
    {Related : α → β → Prop}
    {left : α}
    {right : Except ε β}
    (hAgree : Agree Related (.ok left) right) :
    ∃ other, right = .ok other ∧ Related left other := by
  cases hAgree with
  | ok hRelated => exact ⟨_, rfl, hRelated⟩

/- Steps that agree may be followed by others that do. -/
theorem Agree.bind
    {Related : α → β → Prop}
    {Next : γ → δ → Prop}
    {left : Except ε α}
    {right : Except ε β}
    {leftNext : α → Except ε γ}
    {rightNext : β → Except ε δ}
    (hFirst : Agree Related left right)
    (hNext :
      ∀ first second, Related first second →
        Agree Next (leftNext first) (rightNext second)) :
    Agree Next (left >>= leftNext) (right >>= rightNext) := by
  cases hFirst with
  | ok hRelated => exact hNext _ _ hRelated
  | error fault => exact .error fault

end Except

------------------------------------------------------------
-- Lists Of Computations
------------------------------------------------------------

namespace List

variable {ε α β : Type}

/-
  The computations of a list succeed exactly if each does,
  and their results match the items one by one.
-/
theorem mapM_eq_ok_iff
    {compute : α → Except ε β}
    {items : List α}
    {results : List β} :
    items.mapM compute = .ok results ↔
      List.Forall₂
        (fun item result => compute item = .ok result)
        items results := by
  induction items generalizing results with
  | nil =>
      simp only [List.mapM_nil, List.forall₂_nil_left_iff]
      constructor
      · intro hNil
        cases hNil
        rfl
      · intro hNil
        rw [hNil]
        rfl
  | cons item rest ih =>
      rw [List.mapM_cons, List.forall₂_cons_left_iff]
      simp only [Except.bind_eq_ok_iff, ih]
      constructor
      · rintro ⟨head, hHead, tail, hTail, hResults⟩
        cases hResults
        exact ⟨head, tail, hHead, hTail, rfl⟩
      · rintro ⟨head, tail, hHead, hTail, rfl⟩
        exact ⟨head, hHead, tail, hTail, rfl⟩

/- The computations of a list succeed if each of them can. -/
theorem exists_mapM_eq_ok_iff
    {compute : α → Except ε β}
    {items : List α} :
    (∃ results, items.mapM compute = .ok results) ↔
      ∀ item ∈ items, ∃ result, compute item = .ok result := by
  simp only [mapM_eq_ok_iff]
  induction items with
  | nil => simp
  | cons item rest ih =>
      rw [List.forall_mem_cons, ← ih]
      constructor
      · rintro ⟨_, hEach⟩
        cases hEach with
        | cons hFirst hRest =>
            exact ⟨⟨_, hFirst⟩, _, hRest⟩
      · rintro ⟨⟨_, hFirst⟩, _, hRest⟩
        exact ⟨_, .cons hFirst hRest⟩

/- All checks of a list pass exactly if each does. -/
theorem forM_eq_ok_iff
    {check : α → Except ε Unit}
    {items : List α} :
    items.forM check = .ok () ↔
      ∀ item ∈ items, check item = .ok () := by
  induction items with
  | nil => simp [List.forM, pure, Except.pure]
  | cons item rest ih =>
      have hStep :
          (item :: rest).forM check =
            check item >>= fun _ => rest.forM check := rfl
      rw [hStep, Except.bind_eq_ok_iff, ih,
        List.forall_mem_cons]
      constructor
      · rintro ⟨⟨⟩, hItem, hRest⟩
        exact ⟨hItem, hRest⟩
      · rintro ⟨hItem, hRest⟩
        exact ⟨(), hItem, hRest⟩

/- What matches has a partner on the other side. -/
theorem Forall₂.exists_of_mem_left
    {Match : α → β → Prop}
    {items : List α}
    {results : List β}
    (hMatch : List.Forall₂ Match items results)
    {item : α}
    (hMember : item ∈ items) :
    ∃ result ∈ results, Match item result := by
  induction hMatch with
  | nil => cases hMember
  | cons hFirst _ ih =>
      rcases List.mem_cons.mp hMember with rfl | hRest
      · exact ⟨_, List.mem_cons_self, hFirst⟩
      · rcases ih hRest with ⟨result, hResult, hPair⟩
        exact ⟨result, List.mem_cons_of_mem _ hResult, hPair⟩

theorem Forall₂.exists_of_mem_right
    {Match : α → β → Prop}
    {items : List α}
    {results : List β}
    (hMatch : List.Forall₂ Match items results)
    {result : β}
    (hMember : result ∈ results) :
    ∃ item ∈ items, Match item result :=
  Forall₂.exists_of_mem_left hMatch.flip hMember

/- Lists match in the same way if their items do. -/
theorem Forall₂.congr_of_mem
    {Match Other : α → β → Prop}
    {items : List α}
    {results : List β}
    (hSame :
      ∀ item ∈ items, ∀ result,
        Match item result ↔ Other item result) :
    List.Forall₂ Match items results ↔
      List.Forall₂ Other items results := by
  induction items generalizing results with
  | nil => simp only [List.forall₂_nil_left_iff]
  | cons item rest ih =>
      rw [List.forall_mem_cons] at hSame
      simp only [List.forall₂_cons_left_iff, hSame.1, ih hSame.2]

/- Items that match in a property have a list of it each. -/
theorem Forall₂.map_eq
    {γ : Type}
    {Match : α → β → Prop}
    {left : α → γ}
    {right : β → γ}
    {items : List α}
    {results : List β}
    (hMatch : List.Forall₂ Match items results)
    (hSame :
      ∀ item result, Match item result →
        right result = left item) :
    results.map right = items.map left := by
  induction hMatch with
  | nil => rfl
  | cons hFirst _ ih =>
      rw [List.map_cons, List.map_cons, hSame _ _ hFirst, ih]

/- What stands between matched items makes up a list. -/
theorem Forall₂.exists_between
    {γ : Type}
    {First : α → γ → Prop}
    {Second : γ → β → Prop}
    {items : List α}
    {results : List β}
    (hMatch :
      List.Forall₂
        (fun item result =>
          ∃ middle, First item middle ∧ Second middle result)
        items results) :
    ∃ middles,
      List.Forall₂ First items middles ∧
        List.Forall₂ Second middles results := by
  induction hMatch with
  | nil => exact ⟨[], .nil, .nil⟩
  | cons hFirst _ ih =>
      rcases hFirst with ⟨middle, hItem, hResult⟩
      rcases ih with ⟨middles, hItems, hResults⟩
      exact ⟨middle :: middles, .cons hItem hItems,
        .cons hResult hResults⟩

end List

------------------------------------------------------------
-- Kinds Of Faults
------------------------------------------------------------

namespace Except

open Relmap

variable {α β : Type}
variable {kind : ErrorKind}

/- If the computation fails, then with another kind. -/
def Lacks
    (kind : ErrorKind)
    (result : Except Error α) : Prop :=
  ∀ fault, result = .error fault → fault.kind ≠ kind

theorem lacks_ok (value : α) :
    Lacks kind (.ok value : Except Error α) := by
  intro fault hFault
  cases hFault

theorem lacks_error
    {fault : Error}
    (hKind : fault.kind ≠ kind) :
    Lacks kind (.error fault : Except Error α) := by
  intro other hOther
  cases hOther
  exact hKind

instance
    (kind : ErrorKind)
    (result : Except Error α) :
    Decidable (Lacks kind result) :=
  match result with
  | .ok value => .isTrue (lacks_ok value)
  | .error fault =>
      decidable_of_iff (fault.kind ≠ kind)
        ⟨lacks_error, fun hLacks => hLacks fault rfl⟩

/- What a computation does not lack it fails with. -/
theorem exists_of_not_lacks
    {result : Except Error α}
    (hLacks : ¬ Lacks kind result) :
    ∃ fault, result = .error fault ∧ fault.kind = kind := by
  unfold Lacks at hLacks
  push Not at hLacks
  exact hLacks

/- Two steps lack what each of them lacks. -/
theorem lacks_bind
    {first : Except Error α}
    {next : α → Except Error β}
    (hFirst : Lacks kind first)
    (hNext :
      ∀ value, first = .ok value → Lacks kind (next value)) :
    Lacks kind (first >>= next) := by
  intro fault hFault
  rcases Except.bind_eq_error_iff.mp hFault with
    hFirstFault | ⟨value, hValue, hNextFault⟩
  · exact hFirst fault hFirstFault
  · exact hNext value hValue fault hNextFault

theorem Lacks.map
    {result : Except Error α}
    (hResult : Lacks kind result)
    (change : α → β) :
    Lacks kind (result.map change) := by
  intro fault hFault
  cases result with
  | ok value => cases hFault
  | error other =>
      cases hFault
      exact hResult fault rfl

/- A fault may end another computation. -/
theorem Lacks.error_of_eq
    {result : Except Error α}
    {fault : Error}
    (hResult : Lacks kind result)
    (hFault : result = .error fault) :
    Lacks kind (.error fault : Except Error β) :=
  lacks_error (hResult fault hFault)

/- A list of computations lacks what each of them lacks. -/
theorem lacks_mapM
    {compute : α → Except Error β}
    {items : List α}
    (hEach : ∀ item ∈ items, Lacks kind (compute item)) :
    Lacks kind (items.mapM compute) := by
  induction items with
  | nil => exact lacks_ok []
  | cons item rest ih =>
      rw [List.forall_mem_cons] at hEach
      rw [List.mapM_cons]
      refine lacks_bind hEach.1 fun _ _ => ?_
      exact lacks_bind (ih hEach.2) fun _ _ => lacks_ok _

theorem lacks_forM
    {check : α → Except Error Unit}
    {items : List α}
    (hEach : ∀ item ∈ items, Lacks kind (check item)) :
    Lacks kind (items.forM check) := by
  induction items with
  | nil => exact lacks_ok ()
  | cons item rest ih =>
      rw [List.forall_mem_cons] at hEach
      exact lacks_bind hEach.1 fun _ _ => ih hEach.2

theorem lacks_foldlM
    {step : β → α → Except Error β}
    (hEach : ∀ state item, Lacks kind (step state item))
    (items : List α)
    (state : β) :
    Lacks kind (items.foldlM step state) := by
  induction items generalizing state with
  | nil => exact lacks_ok state
  | cons item rest ih =>
      rw [List.foldlM_cons]
      exact lacks_bind (hEach state item) fun next _ => ih next

end Except
