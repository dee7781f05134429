import Mathlib.Data.List.Infix
import Relmap.Text.Escape

/-
  Which texts match a pattern.

  A text with its pattern signs escaped matches itself only,
  so wildcards around it tell where it may stand in a longer
  text. This is still so in upper case, if upper case keeps
  the signs and makes none of other characters.

  Main declarations:
    * `Text.Matches`
    * `Text.matches_literalPattern_append`
    * `Text.matches_within`
    * `Text.CaseMap`
    * `Text.CaseMap.apply_literalPattern`
-/

------------------------------------------------------------
-- Matches
------------------------------------------------------------

namespace Relmap

namespace Text

/-
  A text matches a pattern. A percent sign stands for any
  characters, an underscore for any one, and a backslash
  makes the next character stand for itself, as those do
  that have no meaning.
-/
inductive Matches : List Char → List Char → Prop where
  | nil : Matches [] []
  | run {pattern text : List Char}
      (skipped : List Char)
      (hRest : Matches pattern text) :
      Matches ('%' :: pattern) (skipped ++ text)
  | single {pattern text : List Char}
      (c : Char)
      (hRest : Matches pattern text) :
      Matches ('_' :: pattern) (c :: text)
  | escaped {pattern text : List Char}
      (c : Char)
      (hRest : Matches pattern text) :
      Matches ('\\' :: c :: pattern) (c :: text)
  | plain {pattern text : List Char}
      {c : Char}
      (hPlain : isPatternSign c = false)
      (hRest : Matches pattern text) :
      Matches (c :: pattern) (c :: text)

variable {pattern text : List Char}

/- The empty pattern matches the empty text only. -/
theorem matches_nil_iff : Matches [] text ↔ text = [] := by
  constructor
  · rintro ⟨⟩
    rfl
  · rintro rfl
    exact .nil

/- A percent sign skips some characters. -/
theorem matches_run_iff :
    Matches ('%' :: pattern) text ↔
      ∃ skipped rest,
        text = skipped ++ rest ∧ Matches pattern rest := by
  constructor
  · intro hMatches
    cases hMatches with
    | run skipped hRest => exact ⟨skipped, _, rfl, hRest⟩
    | plain hPlain => cases hPlain
  · rintro ⟨skipped, rest, rfl, hRest⟩
    exact .run skipped hRest

/- A character behind a backslash stands for itself. -/
theorem matches_escaped_iff {c : Char} :
    Matches ('\\' :: c :: pattern) text ↔
      ∃ rest, text = c :: rest ∧ Matches pattern rest := by
  constructor
  · intro hMatches
    cases hMatches with
    | escaped _ hRest => exact ⟨_, rfl, hRest⟩
    | plain hPlain => cases hPlain
  · rintro ⟨rest, rfl, hRest⟩
    exact .escaped c hRest

/- And so does one without a meaning. -/
theorem matches_plain_iff
    {c : Char}
    (hPlain : isPatternSign c = false) :
    Matches (c :: pattern) text ↔
      ∃ rest, text = c :: rest ∧ Matches pattern rest := by
  constructor
  · intro hMatches
    cases hMatches with
    | plain _ hRest => exact ⟨_, rfl, hRest⟩
    | _ => cases hPlain
  · rintro ⟨rest, rfl, hRest⟩
    exact .plain hPlain hRest

end Text

end Relmap

------------------------------------------------------------
-- Escaped Texts
------------------------------------------------------------

namespace Relmap

namespace Text

variable {pattern body text : List Char}

/-
  An escaped text matches itself only. By induction on it,
  with any pattern behind it.
-/
theorem matches_literalPattern_append :
    Matches (literalPattern body ++ pattern) text ↔
      ∃ rest, text = body ++ rest ∧ Matches pattern rest := by
  induction body generalizing text with
  | nil => simp [literalPattern]
  | cons c body ih =>
      have hHead :
          Matches (literalPattern (c :: body) ++ pattern)
              text ↔
            ∃ rest,
              text = c :: rest ∧
                Matches (literalPattern body ++ pattern)
                  rest := by
        rw [literalPattern]
        by_cases hSign : isPatternSign c = true
        · rw [if_pos hSign]
          exact matches_escaped_iff
        · rw [if_neg hSign]
          exact matches_plain_iff
            (eq_false_of_ne_true hSign)
      rw [hHead]
      constructor
      · rintro ⟨_, rfl, hRest⟩
        rcases ih.mp hRest with ⟨rest, rfl, hPattern⟩
        exact ⟨rest, rfl, hPattern⟩
      · rintro ⟨rest, rfl, hPattern⟩
        exact ⟨body ++ rest, rfl, ih.mpr ⟨rest, rfl, hPattern⟩⟩

theorem matches_literalPattern :
    Matches (literalPattern body) text ↔ text = body := by
  have hEnd :
      Matches (literalPattern body ++ []) text ↔
        ∃ rest, text = body ++ rest ∧ Matches [] rest :=
    matches_literalPattern_append
  simpa [matches_nil_iff] using hEnd

/- Whatever follows a last percent sign matches it. -/
theorem matches_run : Matches ['%'] text := by
  simpa using Matches.run text .nil

/- An escaped text before a percent sign is a prefix. -/
theorem matches_before :
    Matches (literalPattern body ++ ['%']) text ↔
      body <+: text := by
  rw [matches_literalPattern_append]
  constructor
  · rintro ⟨rest, rfl, _⟩
    exact List.prefix_append body rest
  · rintro ⟨rest, rfl⟩
    exact ⟨rest, rfl, matches_run⟩

/- Behind a percent sign it is a suffix. -/
theorem matches_behind :
    Matches ('%' :: literalPattern body) text ↔
      body <:+ text := by
  simp only [matches_run_iff, matches_literalPattern]
  constructor
  · rintro ⟨skipped, _, rfl, rfl⟩
    exact List.suffix_append skipped _
  · rintro ⟨skipped, rfl⟩
    exact ⟨skipped, body, rfl, rfl⟩

/- Between two of them it is anywhere within. -/
theorem matches_within :
    Matches ('%' :: (literalPattern body ++ ['%'])) text ↔
      body <:+: text := by
  rw [matches_run_iff]
  simp only [matches_before]
  constructor
  · rintro ⟨skipped, _, rfl, rest, rfl⟩
    exact ⟨skipped, rest, List.append_assoc ..⟩
  · rintro ⟨skipped, rest, rfl⟩
    exact ⟨skipped, body ++ rest, List.append_assoc ..,
      List.prefix_append body rest⟩

end Text

end Relmap

------------------------------------------------------------
-- Upper Case
------------------------------------------------------------

namespace Relmap

namespace Text

/-
  A change of case: every character becomes some characters.
  A pattern sign stays as it is, and no other character
  becomes one.
-/
structure CaseMap where
  map : Char → List Char
  map_sign : ∀ c, isPatternSign c = true → map c = [c]
  map_plain :
    ∀ c, isPatternSign c = false →
      ∀ d ∈ map c, isPatternSign d = false

namespace CaseMap

/- Change the case of a text. -/
def apply
    (mapping : CaseMap)
    (text : List Char) : List Char :=
  text.flatMap mapping.map

end CaseMap

/- Nothing is escaped in a text without signs. -/
theorem literalPattern_append_of_plain
    {front : List Char}
    (hFront : ∀ c ∈ front, isPatternSign c = false)
    (rest : List Char) :
    literalPattern (front ++ rest) =
      front ++ literalPattern rest := by
  induction front with
  | nil => rfl
  | cons c front ih =>
      rw [List.forall_mem_cons] at hFront
      rw [List.cons_append, literalPattern,
        if_neg (by simp [hFront.1]), ih hFront.2,
        List.cons_append]

namespace CaseMap

variable (mapping : CaseMap)

theorem apply_append (left right : List Char) :
    mapping.apply (left ++ right) =
      mapping.apply left ++ mapping.apply right :=
  List.flatMap_append

/- What is escaped stays so when the case is changed. -/
theorem apply_literalPattern (text : List Char) :
    mapping.apply (literalPattern text) =
      literalPattern (mapping.apply text) := by
  induction text with
  | nil => rfl
  | cons c rest ih =>
      have hRest :
          (literalPattern rest).flatMap mapping.map =
            literalPattern (rest.flatMap mapping.map) :=
        ih
      rw [apply, apply, literalPattern]
      by_cases hSign : isPatternSign c = true
      · have hEscape := mapping.map_sign '\\' rfl
        rw [if_pos hSign]
        simp only [List.flatMap_cons, hEscape,
          mapping.map_sign c hSign, hRest]
        simp [literalPattern, hSign]
      · have hPlain :=
          mapping.map_plain c
            (eq_false_of_ne_true hSign)
        rw [if_neg hSign, List.flatMap_cons,
          List.flatMap_cons, hRest,
          literalPattern_append_of_plain hPlain]

end CaseMap

end Text

end Relmap
