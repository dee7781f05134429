/-
  Powers of the two bases in which numbers are held and
  written.

  Key definitions include:
    * `twoTo`
    * `tenTo`
-/

------------------------------------------------------------
-- Powers
------------------------------------------------------------

namespace Relmap

/- Two to the power of `n`. -/
def twoTo (n : Nat) : Nat :=
  Nat.pow 2 n

/- Ten to the power of `n`. -/
def tenTo (n : Nat) : Nat :=
  Nat.pow 10 n

end Relmap
