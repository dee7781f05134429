/-
  Faults of literals.

  Key definitions include:
    * `ValueError`
    * `ValueError.message`
-/

------------------------------------------------------------
-- Faults
------------------------------------------------------------

namespace Relmap

/- Why a literal could not be built. -/
inductive ValueError where
  | unsupportedJson (text : String)
  | unexpected (expected : String) (actual : String)
  deriving DecidableEq

namespace ValueError

def message : ValueError → String
  | .unsupportedJson text =>
      "unsupported JSON value: " ++ text
  | .unexpected expected actual =>
      "expected " ++ expected ++ ", got " ++ actual

end ValueError

end Relmap
