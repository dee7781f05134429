import Std.Data.TreeMap
import Relmap.Lookup

/-
  Custom filters: filter keys that compare computed columns.

  A computed column registers one key for every lookup. Keys
  are kept sorted, and a key that is registered again
  belongs to the later computed column.

  Key definitions include:
    * `CustomFilter`
    * `CustomFilters`
    * `CustomFilters.register`
    * `CustomFilters.get?`
    * `CustomFilters.keys`
-/

------------------------------------------------------------
-- Registry
------------------------------------------------------------

namespace Relmap

/- The computed column that is compared, and how. -/
structure CustomFilter where
  computed : String
  lookup : Lookup
  deriving DecidableEq

/- Filter keys with their custom filters. -/
structure CustomFilters where
  filters : Std.TreeMap String CustomFilter

namespace CustomFilters

/- The registry without keys. -/
def empty : CustomFilters := ⟨∅⟩

/- Register the key of one lookup on a computed column. -/
def registerKey
    (custom : CustomFilters)
    (computed : String)
    (lookup : Lookup) : CustomFilters :=
  ⟨custom.filters.insert (lookup.key computed)
    ⟨computed, lookup⟩⟩

/- Register the keys of all lookups on a computed column. -/
def register
    (custom : CustomFilters)
    (computed : String) : CustomFilters :=
  Lookup.all.foldl
    (fun known lookup => known.registerKey computed lookup)
    custom

/- Register computed columns one after the other. -/
def ofNames (names : List String) : CustomFilters :=
  names.foldl register empty

/- The custom filter of a key. -/
def get?
    (custom : CustomFilters)
    (key : String) : Option CustomFilter :=
  custom.filters[key]?

/- The key is registered. -/
def contains
    (custom : CustomFilters)
    (key : String) : Bool :=
  custom.filters.contains key

/- The registered keys in sorted order. -/
def keys (custom : CustomFilters) : List String :=
  custom.filters.keys

/- The number of registered keys. -/
def size (custom : CustomFilters) : Nat :=
  custom.filters.size

/- No key is registered. -/
def isEmpty (custom : CustomFilters) : Bool :=
  custom.filters.isEmpty

end CustomFilters

end Relmap
