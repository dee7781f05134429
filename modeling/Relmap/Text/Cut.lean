/-
  Compound names and how they are cut.

  A compound name joins its segments by a double
  underscore. Names may themselves hold underscores, so the
  place of a cut matters: in a run of three underscores the
  first cut takes the left two and the last cut takes the
  right two.

  Key definitions include:
    * `Text.cutFirst`
    * `Text.cutLast`
    * `Text.segments`
    * `Text.cutFirst?`
    * `Text.cutLast?`
    * `Text.split`
    * `Text.headSegment`
-/

------------------------------------------------------------
-- Cuts Of Character Lists
------------------------------------------------------------

namespace Relmap

namespace Text

/-
  Cut at the leftmost separator. Both parts come without it.
-/
def cutFirst : List Char → Option (List Char × List Char)
  | '_' :: '_' :: rest => some ([], rest)
  | c :: rest =>
      (cutFirst rest).map fun (left, right) =>
        (c :: left, right)
  | [] => none

/-
  Cut at the rightmost separator: a separator further right
  wins over one that starts here.
-/
def cutLast : List Char → Option (List Char × List Char)
  | [] => none
  | c :: rest =>
      match cutLast rest with
      | some (left, right) => some (c :: left, right)
      | none =>
          match c, rest with
          | '_', '_' :: right => some ([], right)
          | _, _ => none

/- What follows a separator is shorter than the whole. -/
theorem cutFirst_length
    {text left right : List Char}
    (hCut : cutFirst text = some (left, right)) :
    right.length < text.length := by
  fun_induction cutFirst text generalizing left with
  | case1 rest =>
      cases hCut
      simp only [List.length_cons]
      omega
  | case2 c rest _ ih =>
      rcases Option.map_eq_some_iff.mp hCut with
        ⟨⟨front, behind⟩, hRest, hParts⟩
      cases hParts
      exact Nat.lt_succ_of_lt (ih hRest)
  | case3 => cases hCut

/- Put a character in front of the first segment. -/
def consSegment
    (c : Char) :
    List (List Char) → List (List Char)
  | [] => [[c]]
  | segment :: others => (c :: segment) :: others

/-
  All segments, cut at separators taken from the left
  without overlap. There is always at least one.
-/
def segments : List Char → List (List Char)
  | '_' :: '_' :: rest => [] :: segments rest
  | c :: rest => consSegment c (segments rest)
  | [] => [[]]

end Text

end Relmap

------------------------------------------------------------
-- Cuts Of Strings
------------------------------------------------------------

namespace Relmap

namespace Text

/- The parts of a cut as strings. -/
private def asStrings
    (parts : List Char × List Char) : String × String :=
  (String.ofList parts.1, String.ofList parts.2)

/- The parts around the leftmost separator of a name. -/
def cutFirst?
    (name : String) : Option (String × String) :=
  (cutFirst name.toList).map asStrings

/- What follows a separator is a shorter name. -/
theorem cutFirst?_length
    {name head rest : String}
    (hCut : cutFirst? name = some (head, rest)) :
    rest.length < name.length := by
  rcases Option.map_eq_some_iff.mp hCut with
    ⟨⟨left, right⟩, hParts, hPair⟩
  cases hPair
  rw [String.length_ofList, ← String.length_toList]
  exact cutFirst_length hParts

/- The parts around the rightmost separator of a name. -/
def cutLast?
    (name : String) : Option (String × String) :=
  (cutLast name.toList).map asStrings

/- The segments of a name. -/
def split (name : String) : List String :=
  (segments name.toList).map String.ofList

/-
  The first segment of a name, which is all of it when it
  holds no separator.
-/
def headSegment (name : String) : String :=
  match cutFirst? name with
  | some (head, _) => head
  | none => name

end Text

end Relmap
