/-
  Replacement of names in a text.

  Names stand in braces and hold no opening brace except in
  front. In a text of pieces, each without an opening brace
  or the name itself, replacement goes piece by piece.

  Main declarations:
    * `Text.replaceAll`
    * `Text.replaceAll_append_of_plain`
    * `Text.replaceAll_append_name`
-/

------------------------------------------------------------
-- Replacement
------------------------------------------------------------

namespace Relmap

namespace Text

/-
  Replace a name by a value wherever it occurs, from the
  left. Of an occurrence that has been replaced, the given
  number of characters is still to be skipped.
-/
def replaceFrom
    (name value : List Char) :
    Nat → List Char → List Char
  | _, [] => []
  | skip + 1, _ :: text => replaceFrom name value skip text
  | 0, c :: text =>
      if name <+: c :: text then
        value ++ replaceFrom name value (name.length - 1) text
      else c :: replaceFrom name value 0 text

/- Replace a name by a value wherever it occurs. -/
def replaceAll
    (name value text : List Char) : List Char :=
  replaceFrom name value 0 text

variable {name value front text : List Char}
variable {c : Char}

/- What is to be skipped is left out. -/
theorem replaceFrom_append
    (hSkip : front.length = skip) :
    replaceFrom name value skip (front ++ text) =
      replaceAll name value text := by
  induction front generalizing skip with
  | nil =>
      cases hSkip
      rfl
  | cons c front ih =>
      cases hSkip
      exact ih rfl

/- Where the name does not begin nothing is replaced. -/
theorem replaceAll_cons
    (hHead : ¬ name <+: c :: text) :
    replaceAll name value (c :: text) =
      c :: replaceAll name value text :=
  if_neg hHead

/- An occurrence of the name is replaced. -/
theorem replaceAll_append_name
    (hName : name ≠ [])
    (text : List Char) :
    replaceAll name value (name ++ text) =
      value ++ replaceAll name value text := by
  rcases List.exists_cons_of_ne_nil hName with
    ⟨c, others, rfl⟩
  have hHead : c :: others <+: c :: (others ++ text) :=
    List.prefix_append (c :: others) text
  exact (if_pos hHead).trans
    (congrArg (value ++ ·) (replaceFrom_append rfl))

/-
  A piece without the first character of the name is kept,
  whatever follows.
-/
theorem replaceAll_append_of_plain
    (hPlain : c ∉ front)
    (text : List Char) :
    replaceAll (c :: name) value (front ++ text) =
      front ++ replaceAll (c :: name) value text := by
  induction front with
  | nil => rfl
  | cons d front ih =>
      rw [List.mem_cons, not_or] at hPlain
      have hHead : ¬ c :: name <+: d :: (front ++ text) := by
        rw [List.cons_prefix_cons]
        exact fun hBoth => hPlain.1 hBoth.1
      rw [List.cons_append, replaceAll_cons hHead,
        ih hPlain.2]
      rfl

end Text

end Relmap
