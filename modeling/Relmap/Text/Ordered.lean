/-
  Strictly sorted lists of strings.

  Strings are compared character by character, which is the
  order of their encoded bytes. A sorted list stands for a
  set, so two sets are equal only if their lists are.

  Key definitions include:
    * `Text.insertOrdered`
    * `Text.sortUnique`
-/

------------------------------------------------------------
-- Sorted Sets
------------------------------------------------------------

namespace Relmap

namespace Text

/- Insert a string into a sorted list unless it is there. -/
def insertOrdered
    (text : String) :
    List String → List String
  | [] => [text]
  | first :: rest =>
      if text < first then
        text :: first :: rest
      else if text = first then
        first :: rest
      else
        first :: insertOrdered text rest

/- The sorted list of the distinct members of a list. -/
def sortUnique : List String → List String
  | [] => []
  | text :: rest => insertOrdered text (sortUnique rest)

end Text

end Relmap
