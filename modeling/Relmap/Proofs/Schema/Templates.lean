import Relmap.Proofs.Text.Replacement
import Relmap.Schema.ColumnType

/-
  Templates as text.

  The text of a template names its parameters in braces.
  Filling in a template is replacing these names one after
  the other, wherever they occur, as long as its words hold
  no braces. Then none are left.

  Main declarations:
    * `TypeTemplate.IsSound`
    * `TypeTemplate.fillPattern`
    * `TypeTemplate.fillPattern_pattern`
    * `TypeTemplate.not_mem_fill`
-/

------------------------------------------------------------
-- Sound Templates
------------------------------------------------------------

namespace Relmap

namespace TemplatePart

/- The parts that stand for a parameter. -/
def parameters : List TemplatePart :=
  [.maxLength, .maxDigits, .decimalPlaces]

/- The words of the part hold no braces. -/
def isPlain : TemplatePart → Bool
  | .text words =>
      '\x7b' ∉ words.toList && '\x7d' ∉ words.toList
  | _ => true

end TemplatePart

namespace TypeTemplate

/-
  The words of the template hold no braces, and it has both
  parameters of a precision or neither.
-/
def IsSound (template : TypeTemplate) : Prop :=
  (∀ part ∈ template, part.isPlain = true) ∧
    (TemplatePart.maxDigits ∈ template ↔
      TemplatePart.decimalPlaces ∈ template)

instance (template : TypeTemplate) :
    Decidable template.IsSound :=
  inferInstanceAs (Decidable (_ ∧ _))

end TypeTemplate

end Relmap

------------------------------------------------------------
-- The Text Of A Part
------------------------------------------------------------

namespace Relmap

namespace TemplatePart

variable {parameter part : TemplatePart}
variable (length : UInt32)
variable (precision : Precision)

/- A number has no braces. -/
theorem not_mem_ofNat
    {c : Char}
    (hBrace : c.isDigit = false)
    (n : Nat) :
    c ∉ (Decimal.ofNat n).toList := by
  rw [Decimal.ofNat, String.toList_ofList]
  intro hMember
  have hDigit : c.isDigit = true :=
    Nat.isDigit_of_mem_toDigits (by decide) (by decide)
      hMember
  rw [hBrace] at hDigit
  cases hDigit

/- A part that is filled in has none either. -/
theorem not_mem_fill
    (hPlain : part.isPlain = true) :
    '\x7b' ∉ (part.fill length precision).toList ∧
      '\x7d' ∉ (part.fill length precision).toList := by
  cases part with
  | text words => simpa [isPlain, fill] using hPlain
  | _ =>
      exact ⟨not_mem_ofNat (by decide) _,
        not_mem_ofNat (by decide) _⟩

/- The name of a parameter begins with its only brace. -/
theorem pattern_eq_cons
    (hParameter : parameter ∈ parameters) :
    parameter.pattern.toList =
        '\x7b' :: parameter.pattern.toList.tail ∧
      '\x7b' ∉ parameter.pattern.toList.tail := by
  revert parameter
  decide

/- No name of a parameter begins another. -/
theorem not_prefix_pattern
    (hParameter : parameter ∈ parameters)
    (hPart : part ∈ parameters)
    (hNe : part ≠ parameter)
    (text : List Char) :
    ¬ parameter.pattern.toList <+:
      part.pattern.toList ++ text := by
  -- They differ within their first six characters.
  have hLong :
      ∀ one ∈ parameters,
        6 ≤ one.pattern.toList.length := by
    decide
  have hDiffer :
      ∀ one ∈ parameters, ∀ other ∈ parameters,
        other ≠ one →
          one.pattern.toList.take 6 ≠
            other.pattern.toList.take 6 := by
    decide
  rintro ⟨rest, hSame⟩
  have hFront := congrArg (List.take 6) hSame
  rw [List.take_append_of_le_length (hLong _ hParameter),
    List.take_append_of_le_length (hLong _ hPart)]
    at hFront
  exact hDiffer _ hParameter _ hPart hNe hFront

end TemplatePart

end Relmap

------------------------------------------------------------
-- Filling In One Parameter After The Other
------------------------------------------------------------

namespace Relmap

namespace TypeTemplate

open TemplatePart

variable {template : TypeTemplate}
variable (length : UInt32)
variable (precision : Precision)

/- A part when some parameters have been filled in. -/
def partly
    (filled : List TemplatePart)
    (part : TemplatePart) : List Char :=
  if part ∈ filled then
    (part.fill length precision).toList
  else part.pattern.toList

/- Replace the name of a parameter by its value. -/
def replaceParameter
    (parameter : TemplatePart)
    (text : List Char) : List Char :=
  Text.replaceAll parameter.pattern.toList
    (parameter.fill length precision).toList text

variable {parameter part : TemplatePart}
variable {filled : List TemplatePart}

/- What has no brace is kept. -/
theorem replaceParameter_append_of_plain
    {front : List Char}
    (hParameter : parameter ∈ parameters)
    (hPlain : '\x7b' ∉ front)
    (text : List Char) :
    replaceParameter length precision parameter
        (front ++ text) =
      front ++
        replaceParameter length precision parameter
          text := by
  unfold replaceParameter
  rw [(pattern_eq_cons hParameter).1]
  exact Text.replaceAll_append_of_plain hPlain text

/- So is any other part. -/
theorem replaceParameter_append_of_ne
    (hParameter : parameter ∈ parameters)
    (hPlain : part.isPlain = true)
    (hNe : part ≠ parameter)
    (text : List Char) :
    replaceParameter length precision parameter
        (partly length precision filled part ++ text) =
      partly length precision filled part ++
        replaceParameter length precision parameter
          text := by
  unfold partly
  split
  · exact replaceParameter_append_of_plain length precision
      hParameter (not_mem_fill length precision hPlain).1 text
  · by_cases hPart : part ∈ parameters
    · rcases pattern_eq_cons hPart with ⟨hName, hBrace⟩
      have hHead :=
        not_prefix_pattern hParameter hPart hNe text
      rw [hName, List.cons_append] at hHead ⊢
      rw [replaceParameter, Text.replaceAll_cons hHead,
        List.cons_append]
      exact congrArg ('\x7b' :: ·)
        (replaceParameter_append_of_plain length precision
          hParameter hBrace text)
    · apply replaceParameter_append_of_plain length precision
        hParameter
      cases part with
      | text words =>
          exact (not_mem_fill length precision hPlain).1
      | _ => exact absurd (by decide) hPart

/-
  Replacing the name of a parameter fills it in everywhere
  and changes nothing else.
-/
theorem replaceParameter_flatMap
    (hParameter : parameter ∈ parameters)
    (hNew : parameter ∉ filled)
    (hPlain : ∀ part ∈ template, part.isPlain = true) :
    replaceParameter length precision parameter
        (template.flatMap (partly length precision filled)) =
      template.flatMap
        (partly length precision (parameter :: filled)) := by
  induction template with
  | nil => rfl
  | cons part template ih =>
      rw [List.forall_mem_cons] at hPlain
      rw [List.flatMap_cons, List.flatMap_cons,
        ← ih hPlain.2]
      by_cases hSame : part = parameter
      · have hName : parameter.pattern.toList ≠ [] := by
          rw [(pattern_eq_cons hParameter).1]
          exact List.cons_ne_nil _ _
        rw [hSame, partly, partly, if_neg hNew,
          if_pos List.mem_cons_self]
        exact Text.replaceAll_append_name hName _
      · have hKept :
            partly length precision (parameter :: filled)
                part =
              partly length precision filled part := by
          simp only [partly, List.mem_cons, hSame, false_or]
        rw [hKept]
        exact replaceParameter_append_of_ne length precision
          hParameter hPlain.1 hSame _

/- Replace the name of each parameter by its value. -/
def fillPattern (pattern : String) : String :=
  String.ofList
    (replaceParameter length precision .decimalPlaces
      (replaceParameter length precision .maxDigits
        (replaceParameter length precision .maxLength
          pattern.toList)))

/- This fills in the template that the text is of. -/
theorem fillPattern_pattern
    (hPlain : ∀ part ∈ template, part.isPlain = true) :
    fillPattern length precision template.pattern =
      template.fill length precision := by
  have hStart :
      template.pattern.toList =
        template.flatMap (partly length precision []) := by
    rw [pattern, String.toList_join, List.flatMap_map]
    rfl
  have hEnd :
      (template.fill length precision).toList =
        template.flatMap
          (partly length precision
            [.decimalPlaces, .maxDigits, .maxLength]) := by
    rw [fill, String.toList_join, List.flatMap_map]
    congr 1
    funext part
    cases part <;> rfl
  rw [fillPattern, hStart,
    replaceParameter_flatMap length precision (by decide)
      (by decide) hPlain,
    replaceParameter_flatMap length precision (by decide)
      (by decide) hPlain,
    replaceParameter_flatMap length precision (by decide)
      (by decide) hPlain,
    ← hEnd, String.ofList_toList]

/- A template without braces has none when it is filled in. -/
theorem not_mem_fill
    (hPlain : ∀ part ∈ template, part.isPlain = true) :
    '\x7b' ∉ (template.fill length precision).toList ∧
      '\x7d' ∉ (template.fill length precision).toList := by
  rw [fill, String.toList_join, List.flatMap_map]
  simp only [List.mem_flatMap, not_exists, not_and]
  exact
    ⟨fun part hPart =>
        (TemplatePart.not_mem_fill length precision
          (hPlain part hPart)).1,
      fun part hPart =>
        (TemplatePart.not_mem_fill length precision
          (hPlain part hPart)).2⟩

end TypeTemplate

end Relmap
