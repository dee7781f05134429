/-
  Bytes as lowercase hexadecimal digits.

  Key definitions include:
    * `Hex.digit`
    * `Hex.ofBytes`
-/

------------------------------------------------------------
-- Hexadecimal Text
------------------------------------------------------------

namespace Relmap

namespace Hex

/- The lowercase digit of a number below sixteen. -/
def digit (n : Nat) : Char :=
  Nat.digitChar n

/- Two digits for every byte, the high half first. -/
def digits : List UInt8 → List Char
  | [] => []
  | byte :: rest =>
      digit (byte.toNat / 16) ::
        digit (byte.toNat % 16) :: digits rest

/- The hexadecimal text of a list of bytes. -/
def ofBytes (bytes : List UInt8) : String :=
  String.ofList (digits bytes)

end Hex

end Relmap
