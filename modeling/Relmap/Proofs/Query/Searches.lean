import Relmap.Lookup
import Relmap.Proofs.Text.Patterns

/-
  Lookups that search for a text take it literally.

  The plain text of a literal is found where it stands, be
  it somewhere in a text, at its front or at its end, and
  whatever pattern signs it holds. Lookups that ignore case
  find it if it stands there when both are in upper case.

  Main declarations:
    * `Placement`
    * `Lookup.placement?`
    * `Lookup.criterion_of_placement?`
    * `Criterion.Likes`
    * `Lookup.criterion_likes`
-/

------------------------------------------------------------
-- Placements
------------------------------------------------------------

namespace Relmap

open Text

/- Where a text may be searched for in another one. -/
inductive Placement where
  | within
  | front
  | back

namespace Placement

/- The text stands there in the other one. -/
def Holds : Placement → List Char → List Char → Prop
  | .within, body, text => body <:+: text
  | .front, body, text => body <+: text
  | .back, body, text => body <:+ text

instance
    (placement : Placement)
    (body text : List Char) :
    Decidable (placement.Holds body text) :=
  match placement with
  | .within => inferInstanceAs (Decidable (body <:+: text))
  | .front => inferInstanceAs (Decidable (body <+: text))
  | .back => inferInstanceAs (Decidable (body <:+ text))

/- The wildcard before the text. -/
def before : Placement → String
  | .within => "%"
  | .front => ""
  | .back => "%"

/- The wildcard after the text. -/
def after : Placement → String
  | .within => "%"
  | .front => "%"
  | .back => ""

variable (placement : Placement)

/- With these wildcards an escaped text matches there. -/
theorem matches_iff {body text : List Char} :
    Matches
        (placement.before.toList ++ literalPattern body ++
          placement.after.toList) text ↔
      placement.Holds body text := by
  cases placement with
  | within => exact matches_within
  | front => exact matches_before
  | back =>
      have hBehind :
          Matches ('%' :: literalPattern body) text ↔
            body <:+ text :=
        matches_behind
      simpa [before, after, Holds] using hBehind

/- Wildcards stay as they are in another case. -/
theorem apply_before (upper : CaseMap) :
    upper.apply placement.before.toList =
      placement.before.toList := by
  have hRun := upper.map_sign '%' rfl
  cases placement <;> simp [before, CaseMap.apply, hRun]

theorem apply_after (upper : CaseMap) :
    upper.apply placement.after.toList =
      placement.after.toList := by
  have hRun := upper.map_sign '%' rfl
  cases placement <;> simp [after, CaseMap.apply, hRun]

end Placement

end Relmap

------------------------------------------------------------
-- Searching Lookups
------------------------------------------------------------

namespace Relmap

open Text

namespace Lookup

/- Where a lookup that searches for a text looks for it. -/
def placement? : Lookup → Option Placement
  | contains | icontains => some .within
  | startsWith | istartsWith => some .front
  | endsWith | iendsWith => some .back
  | _ => none

/- The lookup compares texts in upper case. -/
def ignoresCase : Lookup → Bool
  | icontains | istartsWith | iendsWith | iexact => true
  | _ => false

/- An operand in the case that a lookup compares it in. -/
def operand
    (lookup : Lookup)
    (term : Term) : Term :=
  if lookup.ignoresCase then .upper term else term

/- A text in the case that a lookup compares it in. -/
def folded
    (lookup : Lookup)
    (upper : CaseMap)
    (text : List Char) : List Char :=
  if lookup.ignoresCase then upper.apply text else text

variable {lookup : Lookup}
variable {placement : Placement}

/- A search is a comparison with a pattern. -/
theorem criterion_of_placement?
    (hPlacement : lookup.placement? = some placement)
    (term : Term)
    (value : Value) :
    lookup.criterion term value =
      .ok
        ((lookup.operand term).like
          (lookup.operand
            (pattern placement.before placement.after
              value))) := by
  cases lookup <;> cases hPlacement <;> rfl

end Lookup

end Relmap

------------------------------------------------------------
-- What Is Found
------------------------------------------------------------

namespace Relmap

open Text

/-
  The text of a term. That of a string literal is its own,
  upper case is a change of case, and other terms have the
  texts that are given.
-/
def Term.text
    (upper : CaseMap)
    (texts : Term → List Char) : Term → List Char
  | .upper term => upper.apply (term.text upper texts)
  | .value (.string text) => text.toList
  | term => texts term

/- The text of a term matches the pattern of an expression. -/
def Criterion.Likes
    (upper : CaseMap)
    (texts : Term → List Char) : Criterion → Prop
  | .like term pattern =>
      Matches (pattern.text upper texts)
        (term.text upper texts)
  | _ => False

namespace Lookup

variable {lookup : Lookup}
variable {placement : Placement}
variable {upper : CaseMap}
variable {texts : Term → List Char}

theorem text_operand (term : Term) :
    (lookup.operand term).text upper texts =
      lookup.folded upper (term.text upper texts) := by
  unfold operand folded
  split <;> rfl

/- The text of a pattern is that of the literal, escaped. -/
theorem text_pattern (value : Value) :
    (lookup.operand
        (pattern placement.before placement.after value)).text
          upper texts =
      placement.before.toList ++
        literalPattern
          (lookup.folded upper value.plain.toList) ++
        placement.after.toList := by
  have hText :
      (pattern placement.before placement.after value).text
          upper texts =
        placement.before.toList ++
          literalPattern value.plain.toList ++
          placement.after.toList := by
    simp [pattern, Term.text, escapeLike]
  rw [text_operand, hText]
  unfold folded
  split
  · rw [upper.apply_append, upper.apply_append,
      placement.apply_before, placement.apply_after,
      upper.apply_literalPattern]
  · rfl

/-
  A lookup that searches for a text never fails, and its
  expression finds the plain text of the literal exactly
  where it stands, whatever text the term has. If the lookup
  ignores case then both are in upper case.
-/
theorem criterion_likes
    (hPlacement : lookup.placement? = some placement)
    (term : Term)
    (value : Value) :
    ∃ criterion,
      lookup.criterion term value = .ok criterion ∧
        ∀ upper texts,
          criterion.Likes upper texts ↔
            placement.Holds
              (lookup.folded upper value.plain.toList)
              (lookup.folded upper
                (term.text upper texts)) := by
  refine ⟨_, criterion_of_placement? hPlacement term value, ?_⟩
  intro upper texts
  rw [Term.like, Criterion.Likes, text_pattern, text_operand]
  exact placement.matches_iff

/- Upper case that writes one letter as two. -/
private def sharp : CaseMap where
  map c := if c = 'ß' then ['S', 'S'] else [c]
  map_sign := by
    intro c hSign
    rw [if_neg]
    rintro rfl
    cases hSign
  map_plain := by
    intro c hPlain d hMember
    split at hMember
    · rcases List.mem_pair.mp hMember with rfl | rfl <;> rfl
    · rw [List.mem_singleton.mp hMember]
      exact hPlain

/- An underscore is searched for, not any character. -/
theorem criterion_likes_address :
    ∃ criterion,
      istartsWith.criterion (.qualified "house" "address")
          (.string "ß_") = .ok criterion ∧
        criterion.Likes sharp (fun _ => "SS_12".toList) ∧
        criterion.Likes sharp (fun _ => "ß_12".toList) ∧
        ¬ criterion.Likes sharp (fun _ => "SS-12".toList) := by
  have hFront : istartsWith.placement? = some .front := rfl
  rcases criterion_likes hFront
      (.qualified "house" "address") (.string "ß_") with
    ⟨criterion, hCriterion, hLikes⟩
  refine ⟨criterion, hCriterion, ?_, ?_, ?_⟩
  · exact (hLikes _ _).mpr (by decide +kernel)
  · exact (hLikes _ _).mpr (by decide +kernel)
  · exact (hLikes _ _).not.mpr (by decide +kernel)

end Lookup

end Relmap
