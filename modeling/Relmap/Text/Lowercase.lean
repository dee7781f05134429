import Relmap.Text.CaseTable

/-
  Lowercase of a text by the full rules of the Unicode
  standard. Every character is mapped on its own with two
  exceptions: the dotted capital I becomes two characters,
  and a capital sigma that ends a word becomes the final
  form of the letter.

  Key definitions include:
    * `Text.lowercaseChar`
    * `Text.endsWord`
    * `Text.lowercase`
-/

------------------------------------------------------------
-- Character Classes
------------------------------------------------------------

namespace Relmap

namespace Text

/- Membership in a list of closed ranges of code points. -/
def inRanges
    (ranges : List (Nat × Nat))
    (c : Char) : Bool :=
  ranges.any fun (first, last) =>
    first ≤ c.toNat && c.toNat ≤ last

/- The character is an upper, lower or title case letter. -/
def isCased (c : Char) : Bool :=
  inRanges casedRanges c

/- The character is passed over in the search for letters. -/
def isCaseIgnorable (c : Char) : Bool :=
  inRanges caseIgnorableRanges c

/- The first character that is not passed over has a case. -/
def meetsCased (cs : List Char) : Bool :=
  match cs.dropWhile isCaseIgnorable with
  | c :: _ => isCased c
  | [] => false

end Text

end Relmap

------------------------------------------------------------
-- Lowercase
------------------------------------------------------------

namespace Relmap

namespace Text

/- The lowercase form of one character out of context. -/
def lowercaseChar (c : Char) : Char :=
  let found :=
    lowercaseRuns.find? fun (first, last, step, _) =>
      first ≤ c.toNat && c.toNat ≤ last &&
        (c.toNat - first) % step = 0
  match found with
  | some (first, _, _, lower) =>
      Char.ofNat (lower + (c.toNat - first))
  | none => c

/-
  A letter ends a word when a letter stands before it and
  none after it. The characters before come nearest first.
-/
def endsWord
    (before : List Char)
    (after : List Char) : Bool :=
  meetsCased before && !meetsCased after

/-
  Lowercase the rest of a text. The characters already
  passed come nearest first.
-/
def lowercaseFrom
    (before : List Char) :
    List Char → List Char
  | [] => []
  | c :: after =>
      let image :=
        if c = 'Σ' then
          [if endsWord before after then 'ς' else 'σ']
        else if c = 'İ' then
          ['i', '\u0307']
        else
          [lowercaseChar c]
      image ++ lowercaseFrom (c :: before) after

/- The lowercase form of a text. -/
def lowercase (text : String) : String :=
  String.ofList (lowercaseFrom [] text.toList)

end Text

end Relmap
