/-
  Options of schema generation.

  Key definitions include:
    * `SchemaConfig`
    * `SchemaConfig.existsClause`
-/

------------------------------------------------------------
-- Options
------------------------------------------------------------

namespace Relmap

/- Whether what exists already is left alone. -/
structure SchemaConfig where
  safe : Bool := true
  deriving DecidableEq

namespace SchemaConfig

/- The words that guard a creation, with a blank behind. -/
def existsClause (config : SchemaConfig) : String :=
  if config.safe then "IF NOT EXISTS " else ""

end SchemaConfig

end Relmap
