import Relmap.Catalog.Model

/-
  Catalogs: lists of models that refer to one another by
  name. Of several models with one name the first counts.

  Key definitions include:
    * `Catalog`
    * `Catalog.model?`
    * `Catalog.require`
-/

------------------------------------------------------------
-- Catalogs
------------------------------------------------------------

namespace Relmap

/- The models of a catalog in the order of declaration. -/
structure Catalog where
  models : List Model

namespace Catalog

/- The first model with a name. -/
def model?
    (catalog : Catalog)
    (name : String) : Option Model :=
  catalog.models.find? fun model => model.name = name

/- The model with a name, which ought to exist. -/
def require
    (catalog : Catalog)
    (name : String) : Except Error Model :=
  match catalog.model? name with
  | some model => .ok model
  | none => .error (.unknownModel name)

end Catalog

end Relmap
