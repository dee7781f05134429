import Relmap.Text.Cut

/-
  Cuts take a compound name apart the way that it was put
  together, if its segments are such that no other cut is
  possible.

  The first cut asks that the left part neither holds a
  separator nor ends in half of one, and the last cut asks
  the same of the beginning of the right part.

  All segments of a name, joined again, are the name.

  Main declarations:
    * `Text.IsSegment`
    * `Text.cutFirst?_append`
    * `Text.cutLast?_append`
    * `Text.eq_or_half_of_append`
    * `Text.cutFirst?_eq_some`
    * `Text.cutLast?_eq_some`
    * `Text.split_of_cutFirst?`
    * `Text.intercalate_split`
-/

------------------------------------------------------------
-- Cuts Of Character Lists
------------------------------------------------------------

namespace Relmap

namespace Text

/- What stands between two segments of a name. -/
def separator : List Char := ['_', '_']

variable {text left right : List Char}

/- Away from a separator the first cut lies further on. -/
theorem cutFirst_cons
    {c : Char}
    (hHead : ¬ separator <+: c :: text) :
    cutFirst (c :: text) =
      (cutFirst text).map fun parts =>
        (c :: parts.1, parts.2) := by
  rw [cutFirst]
  rintro rest rfl rfl
  exact hHead (List.prefix_append separator rest)

/- The first cut is at a separator. -/
theorem cutFirst_eq_some
    (hCut : cutFirst text = some (left, right)) :
    text = left ++ separator ++ right := by
  induction text generalizing left with
  | nil => cases hCut
  | cons c text ih =>
      by_cases hHead : separator <+: c :: text
      · rcases hHead with ⟨rest, hRest⟩
        rw [← hRest] at hCut ⊢
        cases hCut
        rfl
      · rw [cutFirst_cons hHead] at hCut
        rcases Option.map_eq_some_iff.mp hCut with
          ⟨⟨front, rest⟩, hRest, hParts⟩
        cases hParts
        rw [ih hRest]
        rfl

/-
  The first cut finds a separator if none begins before it,
  be it with its own first half.
-/
theorem cutFirst_append
    (hLeft : ¬ separator <:+: left ++ ['_'])
    (right : List Char) :
    cutFirst (left ++ separator ++ right) =
      some (left, right) := by
  induction left with
  | nil => rfl
  | cons c left ih =>
      rw [List.cons_append, List.infix_cons_iff, not_or]
        at hLeft
      rcases hLeft with ⟨hHead, hRest⟩
      have hNotHead :
          ¬ separator <+: c :: (left ++ separator ++ right) := by
        intro hPrefix
        apply hHead
        cases left with
        | nil => simpa [separator] using hPrefix
        | cons d left => simpa [separator] using hPrefix
      rw [List.cons_append, List.cons_append,
        cutFirst_cons hNotHead, ih hRest]
      rfl

/- A last cut of the rest is one of the whole. -/
theorem cutLast_cons_of_some
    (hRest : cutLast text = some (left, right))
    (c : Char) :
    cutLast (c :: text) = some (c :: left, right) := by
  unfold cutLast
  rw [hRest]

/- There is a last cut unless there is no separator. -/
theorem cutLast_eq_none_iff :
    cutLast text = none ↔ ¬ separator <:+: text := by
  induction text with
  | nil => decide
  | cons c text ih =>
      rw [List.infix_cons_iff, not_or, ← ih]
      cases hRest : cutLast text with
      | some parts => simp [cutLast_cons_of_some hRest]
      | none =>
          unfold cutLast
          rw [hRest]
          dsimp only
          split
          · simp [separator]
          · rename_i hOther
            have hHead : ¬ separator <+: c :: text := by
              rintro ⟨rest, hRest⟩
              cases hRest
              exact hOther rest rfl rfl
            simp [hHead]

/- The last cut is at a separator. -/
theorem cutLast_eq_some
    (hCut : cutLast text = some (left, right)) :
    text = left ++ separator ++ right := by
  induction text generalizing left with
  | nil => cases hCut
  | cons c text ih =>
      cases hRest : cutLast text with
      | some parts =>
          rw [cutLast_cons_of_some hRest] at hCut
          cases hCut
          rw [ih hRest]
          rfl
      | none =>
          unfold cutLast at hCut
          rw [hRest] at hCut
          dsimp only at hCut
          split at hCut
          · cases hCut
            rfl
          · cases hCut

/-
  The last cut finds a separator if none begins behind it,
  be it with its own last half.
-/
theorem cutLast_append
    (left : List Char)
    (hRight : ¬ separator <:+: '_' :: right) :
    cutLast (left ++ separator ++ right) =
      some (left, right) := by
  induction left with
  | nil =>
      have hNone := cutLast_eq_none_iff.mpr hRight
      rw [List.nil_append, separator, List.cons_append,
        List.cons_append, List.nil_append, cutLast, hNone]
  | cons c left ih => exact cutLast_cons_of_some ih c

end Text

end Relmap

------------------------------------------------------------
-- Cuts Of Strings
------------------------------------------------------------

namespace Relmap

namespace Text

/- The name holds no separator. -/
def IsSegment (name : String) : Prop :=
  ¬ separator <:+: name.toList

/- The name ends in half a separator. -/
def EndsInHalf (name : String) : Prop :=
  ['_'] <:+ name.toList

instance (name : String) : Decidable (IsSegment name) :=
  inferInstanceAs (Decidable (¬ separator <:+: name.toList))

instance (name : String) : Decidable (EndsInHalf name) :=
  inferInstanceAs (Decidable (['_'] <:+ name.toList))

variable {name head rest : String}

/- The cuts of strings are those of their characters. -/
theorem cutFirst?_eq (name : String) :
    cutFirst? name =
      (cutFirst name.toList).map fun parts =>
        (String.ofList parts.1, String.ofList parts.2) :=
  rfl

theorem cutLast?_eq (name : String) :
    cutLast? name =
      (cutLast name.toList).map fun parts =>
        (String.ofList parts.1, String.ofList parts.2) :=
  rfl

theorem cutLast?_eq_none_iff :
    cutLast? name = none ↔ IsSegment name := by
  rw [cutLast?_eq, Option.map_eq_none_iff]
  exact cutLast_eq_none_iff

/- Two parts with a separator between them. -/
theorem eq_append_of_toList
    {left right : List Char}
    (hText : name.toList = left ++ separator ++ right) :
    name =
      String.ofList left ++ "__" ++ String.ofList right := by
  apply String.toList_inj.mp
  simp [hText, separator]

theorem cutFirst?_eq_some
    (hCut : cutFirst? name = some (head, rest)) :
    name = head ++ "__" ++ rest := by
  rw [cutFirst?_eq] at hCut
  rcases Option.map_eq_some_iff.mp hCut with
    ⟨parts, hParts, hPair⟩
  cases hPair
  exact eq_append_of_toList (cutFirst_eq_some hParts)

theorem cutLast?_eq_some
    (hCut : cutLast? name = some (head, rest)) :
    name = head ++ "__" ++ rest := by
  rw [cutLast?_eq] at hCut
  rcases Option.map_eq_some_iff.mp hCut with
    ⟨parts, hParts, hPair⟩
  cases hPair
  exact eq_append_of_toList (cutLast_eq_some hParts)

/- A text with a separator in it is no segment. -/
theorem not_isSegment_append (left right : String) :
    ¬ IsSegment (left ++ "__" ++ right) := by
  intro hSegment
  apply hSegment
  refine ⟨left.toList, right.toList, ?_⟩
  simp [separator]

/- So there is no cut in a segment. -/
theorem IsSegment.cutFirst?_eq_none
    (hSegment : IsSegment name) :
    cutFirst? name = none := by
  cases hCut : cutFirst? name with
  | none => rfl
  | some parts =>
      rcases parts with ⟨head, rest⟩
      rw [cutFirst?_eq_some hCut] at hSegment
      exact absurd hSegment (not_isSegment_append head rest)

/- The first cut takes a segment in front off. -/
theorem cutFirst?_append
    (hSegment : IsSegment head)
    (hEnd : ¬ EndsInHalf head)
    (rest : String) :
    cutFirst? (head ++ "__" ++ rest) = some (head, rest) := by
  have hLeft :
      ¬ separator <:+: head.toList ++ ['_'] := by
    rw [List.infix_concat_iff, not_or]
    refine ⟨?_, hSegment⟩
    intro hSuffix
    rcases List.suffix_concat_iff.mp hSuffix with
      hNil | ⟨front, hFront, hHead⟩
    · cases hNil
    · have hHalf : front = ['_'] :=
        List.append_cancel_right hFront.symm
      rw [hHalf] at hHead
      exact hEnd hHead
  have hCut := cutFirst_append hLeft rest.toList
  have hText :
      (head ++ "__" ++ rest).toList =
        head.toList ++ separator ++ rest.toList := by
    simp [separator]
  rw [cutFirst?_eq, hText, hCut]
  simp

/- The last cut takes a text without separators off. -/
theorem cutLast?_append
    (head : String)
    (hRest : ¬ separator <:+: '_' :: rest.toList) :
    cutLast? (head ++ "__" ++ rest) = some (head, rest) := by
  have hCut := cutLast_append head.toList hRest
  have hText :
      (head ++ "__" ++ rest).toList =
        head.toList ++ separator ++ rest.toList := by
    simp [separator]
  rw [cutLast?_eq, hText, hCut]
  simp

/- A text that ends in half a separator has a front. -/
theorem exists_front_of_endsInHalf
    (hSegment : IsSegment name)
    (hEnd : EndsInHalf name) :
    ∃ front,
      name = front ++ "_" ∧
        IsSegment front ∧ ¬ EndsInHalf front := by
  rcases hEnd with ⟨front, hFront⟩
  refine ⟨String.ofList front, ?_, ?_, ?_⟩
  · apply String.toList_inj.mp
    simp [← hFront]
  · intro hInfix
    apply hSegment
    rw [← hFront]
    simpa using hInfix.trans (List.prefix_append _ _).isInfix
  · rintro ⟨rest, hRest⟩
    apply hSegment
    rw [String.toList_ofList] at hRest
    rw [← hFront, ← hRest]
    exact ⟨rest, [], by simp [separator]⟩

/-
  A segment in front of a separator is the first segment, or
  takes half of the separator with it.
-/
theorem eq_or_half_of_append
    {base left right : String}
    (hBase : IsSegment base)
    (hHead : IsSegment head)
    (hEnd : ¬ EndsInHalf head)
    (hText : base ++ "__" ++ left = head ++ "__" ++ right) :
    (base = head ∧ left = right) ∨
      (base = head ++ "_" ∧ right = "_" ++ left) := by
  have hCut := cutFirst?_append hHead hEnd right
  rw [← hText] at hCut
  by_cases hHalf : EndsInHalf base
  · right
    rcases exists_front_of_endsInHalf hBase hHalf with
      ⟨front, rfl, hFront, hFrontEnd⟩
    have hMoved :
        front ++ "_" ++ "__" ++ left =
          front ++ "__" ++ ("_" ++ left) := by
      simp [← String.toList_inj]
    rw [hMoved, cutFirst?_append hFront hFrontEnd] at hCut
    cases hCut
    exact ⟨rfl, rfl⟩
  · left
    rw [cutFirst?_append hBase hHalf] at hCut
    cases hCut
    exact ⟨rfl, rfl⟩

end Text

end Relmap

------------------------------------------------------------
-- Segments
------------------------------------------------------------

namespace Relmap

namespace Text

variable {text left right : List Char}

/- Without a separator there is one segment. -/
theorem segments_of_cutFirst_eq_none
    (hCut : cutFirst text = none) :
    segments text = [text] := by
  fun_induction segments text with
  | case1 rest => cases hCut
  | case2 c rest hHead ih =>
      have hOther : ¬ separator <+: c :: rest := by
        rintro ⟨tail, hTail⟩
        cases hTail
        exact hHead tail rfl rfl
      rw [cutFirst_cons hOther, Option.map_eq_none_iff] at hCut
      rw [ih hCut]
      rfl
  | case3 => rfl

/- The first cut takes the first segment off. -/
theorem segments_of_cutFirst_eq_some
    (hCut : cutFirst text = some (left, right)) :
    segments text = left :: segments right := by
  fun_induction segments text generalizing left with
  | case1 rest =>
      cases hCut
      rfl
  | case2 c rest hHead ih =>
      have hOther : ¬ separator <+: c :: rest := by
        rintro ⟨tail, hTail⟩
        cases hTail
        exact hHead tail rfl rfl
      rw [cutFirst_cons hOther] at hCut
      rcases Option.map_eq_some_iff.mp hCut with
        ⟨⟨front, behind⟩, hRest, hParts⟩
      cases hParts
      rw [ih hRest]
      rfl
  | case3 => cases hCut

variable {name head rest : String}

theorem split_of_cutFirst?_eq_none
    (hCut : cutFirst? name = none) :
    split name = [name] := by
  rw [cutFirst?_eq, Option.map_eq_none_iff] at hCut
  rw [split, segments_of_cutFirst_eq_none hCut]
  simp

/- Cutting again and again gives all segments. -/
theorem split_of_cutFirst?
    (hCut : cutFirst? name = some (head, rest)) :
    split name = head :: split rest := by
  rw [cutFirst?_eq] at hCut
  rcases Option.map_eq_some_iff.mp hCut with
    ⟨parts, hParts, hPair⟩
  cases hPair
  rw [split, segments_of_cutFirst_eq_some hParts]
  simp [split]

theorem split_ne_nil (name : String) : split name ≠ [] := by
  cases hCut : cutFirst? name with
  | none => simp [split_of_cutFirst?_eq_none hCut]
  | some parts => simp [split_of_cutFirst? hCut]

/- The segments of a name make up the name. -/
theorem intercalate_split (name : String) :
    "__".intercalate (split name) = name := by
  cases hCut : cutFirst? name with
  | none =>
      rw [split_of_cutFirst?_eq_none hCut,
        String.intercalate_singleton]
  | some parts =>
      have hRest := intercalate_split parts.2
      rw [split_of_cutFirst? hCut,
        String.intercalate_cons_of_ne_nil
          (split_ne_nil parts.2),
        hRest]
      exact (cutFirst?_eq_some hCut).symm
  termination_by name.length
  decreasing_by exact cutFirst?_length hCut

/- Different names have different segments. -/
theorem split_injective : Function.Injective split := by
  intro name other hSame
  rw [← intercalate_split name, hSame, intercalate_split]

end Text

end Relmap
