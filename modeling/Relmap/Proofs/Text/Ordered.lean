import Relmap.Text.Ordered

/-
  Sorted lists of strings stand for sets: they hold what
  they were made of, once and in order.

  Main declarations:
    * `Text.mem_sortUnique`
    * `Text.pairwise_sortUnique`
-/

------------------------------------------------------------
-- Sorted Sets
------------------------------------------------------------

namespace Relmap

namespace Text

@[simp] theorem mem_insertOrdered
    {text other : String}
    {items : List String} :
    other ∈ insertOrdered text items ↔
      other = text ∨ other ∈ items := by
  induction items with
  | nil => simp [insertOrdered]
  | cons first rest ih =>
      unfold insertOrdered
      by_cases hLess : text < first
      · rw [if_pos hLess, List.mem_cons]
      · rw [if_neg hLess]
        by_cases hSame : text = first
        · rw [if_pos hSame, hSame, List.mem_cons]
          simp
        · rw [if_neg hSame, List.mem_cons, ih, List.mem_cons]
          exact or_left_comm

@[simp] theorem mem_sortUnique
    {text : String}
    {items : List String} :
    text ∈ sortUnique items ↔ text ∈ items := by
  induction items with
  | nil => rfl
  | cons first rest ih =>
      rw [sortUnique, mem_insertOrdered, ih, List.mem_cons]

/- Insertion keeps a list sorted. -/
theorem pairwise_insertOrdered
    {text : String}
    {items : List String}
    (hSorted : items.Pairwise (· < ·)) :
    (insertOrdered text items).Pairwise (· < ·) := by
  induction items with
  | nil => exact List.pairwise_singleton _ _
  | cons first rest ih =>
      rcases List.pairwise_cons.mp hSorted with ⟨hFirst, hRest⟩
      unfold insertOrdered
      by_cases hLess : text < first
      · rw [if_pos hLess]
        apply List.pairwise_cons.mpr
        refine ⟨?_, hSorted⟩
        intro other hMember
        rcases List.mem_cons.mp hMember with rfl | hOther
        · exact hLess
        · exact String.lt_trans hLess (hFirst other hOther)
      · rw [if_neg hLess]
        by_cases hSame : text = first
        · rw [if_pos hSame]
          exact hSorted
        · rw [if_neg hSame]
          apply List.pairwise_cons.mpr
          refine ⟨?_, ih hRest⟩
          intro other hMember
          rcases mem_insertOrdered.mp hMember with
            rfl | hOther
          · exact Std.lt_of_le_of_ne
              (String.not_lt.mp hLess) (Ne.symm hSame)
          · exact hFirst other hOther

/- The list of a set is strictly sorted. -/
theorem pairwise_sortUnique (items : List String) :
    (sortUnique items).Pairwise (· < ·) := by
  induction items with
  | nil => exact List.Pairwise.nil
  | cons first rest ih => exact pairwise_insertOrdered ih

end Text

end Relmap
