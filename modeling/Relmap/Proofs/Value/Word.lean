import Relmap.Proofs.Text.Words
import Relmap.Value.Text

/-
  The text of a literal is a single word.

  Strings may hold anything, lists nest to any depth, and
  still no blank in the text of a literal ends a word. No
  literal reads like a keyword either. Doubles are left out.

  Main declarations:
    * `Value.hasDouble`
    * `Value.isWhole_sql`
    * `Sql.IsOperand`
    * `Value.isOperand_sql`
-/

------------------------------------------------------------
-- Doubles
------------------------------------------------------------

namespace Relmap

namespace Value

mutual

/- The literal is a double or a list that holds one. -/
def hasDouble : Value → Bool
  | .float64 _ => true
  | .list items => itemsHaveDouble items
  | _ => false

/- Some item of a list is a double or holds one. -/
def itemsHaveDouble : List Value → Bool
  | [] => false
  | item :: rest => item.hasDouble || itemsHaveDouble rest

end

end Value

end Relmap

------------------------------------------------------------
-- Digits
------------------------------------------------------------

namespace Relmap

namespace Sql

/- No digit of any base quotes, groups or separates. -/
theorem isSolid_digitChar (n : Nat) :
    isSolid (Nat.digitChar n) = true := by
  have hOther :
      ∀ c ∈ ['\'', '"', '(', ')', ' '],
        Nat.digitChar n ≠ c := by
    intro c hMember
    simp only [List.mem_cons, List.not_mem_nil,
      or_false] at hMember
    rcases hMember with rfl | rfl | rfl | rfl | rfl <;>
      exact Nat.digitChar_ne _ (by decide)
  simp only [List.forall_mem_cons] at hOther
  simp [isSolid, isPlain, hOther]

/- A decimal digit neither. -/
theorem isSolid_of_isDigit
    {c : Char}
    (hDigit : c.isDigit = true) :
    isSolid c = true := by
  have hOther :
      ∀ other ∈ ['\'', '"', '(', ')', ' '], c ≠ other := by
    rintro other hMember rfl
    simp only [List.mem_cons, List.not_mem_nil,
      or_false] at hMember
    rcases hMember with rfl | rfl | rfl | rfl | rfl <;>
      exact absurd hDigit (by decide)
  simp only [List.forall_mem_cons] at hOther
  simp [isSolid, isPlain, hOther]

/- Whole numbers are written in solid characters. -/
theorem isSolid_of_mem_intDigits
    {n : Int}
    {c : Char}
    (hMember : c ∈ Decimal.intDigits n) :
    isSolid c = true := by
  have hDigits :
      ∀ m : Nat, c ∈ Decimal.natDigits m →
        isSolid c = true :=
    fun _ hMem =>
      isSolid_of_isDigit
        (Nat.isDigit_of_mem_toDigits (by decide) (by decide)
          hMem)
  cases n with
  | ofNat m => exact hDigits m hMember
  | negSucc m =>
      rcases List.mem_cons.mp hMember with rfl | hMember
      · decide
      · exact hDigits (m + 1) hMember

/- Bytes are written in solid characters. -/
theorem isSolid_of_mem_hexDigits
    {bytes : List UInt8}
    {c : Char}
    (hMember : c ∈ Hex.digits bytes) :
    isSolid c = true := by
  induction bytes with
  | nil => simp [Hex.digits] at hMember
  | cons byte rest ih =>
      rw [Hex.digits, List.mem_cons, List.mem_cons]
        at hMember
      rcases hMember with rfl | rfl | hMember
      · exact isSolid_digitChar _
      · exact isSolid_digitChar _
      · exact ih hMember

end Sql

end Relmap

------------------------------------------------------------
-- Literals Are Words
------------------------------------------------------------

namespace Relmap

namespace Value

open Sql

/- An identifier of bytes is written in solid characters. -/
theorem isSolid_of_mem_uuidText
    {data : Vector UInt8 16}
    {c : Char}
    (hMember : c ∈ (uuidText data).toList) :
    isSolid c = true := by
  have hGroup :
      ∀ bytes, c ∈ (Hex.ofBytes bytes).toList →
        isSolid c = true := by
    intro bytes hBytes
    rw [Hex.ofBytes, String.toList_ofList] at hBytes
    exact isSolid_of_mem_hexDigits hBytes
  have hHyphen :
      c ∈ "-".toList → isSolid c = true := by
    intro hMem
    have hEq : c = '-' := by simpa using hMem
    rw [hEq]
    decide
  simp only [uuidText, String.toList_append,
    List.mem_append] at hMember
  rcases hMember with
    (((((((hMember | hMember) | hMember) | hMember) |
      hMember) | hMember) | hMember) | hMember) | hMember
  · exact hGroup _ hMember
  · exact hHyphen hMember
  · exact hGroup _ hMember
  · exact hHyphen hMember
  · exact hGroup _ hMember
  · exact hHyphen hMember
  · exact hGroup _ hMember
  · exact hHyphen hMember
  · exact hGroup _ hMember

/- Solid text between single quotes is one word. -/
private theorem isWhole_solidQuoted
    {text : List Char}
    (hSolid : ∀ c ∈ text, isSolid c = true) :
    IsWhole 0 ('\'' :: (text ++ ['\''])) := by
  apply isWhole_quoted (.inl rfl)
  intro hMember
  exact absurd (hSolid '\'' hMember) (by decide)

mutual

/- The text of a literal without doubles is one word. -/
theorem isWhole_sql :
    ∀ value : Value, value.hasDouble = false →
      IsWhole 0 value.sql.toList
  | .null, _ => isWhole_of_solid (by decide)
  | .bool true, _ => isWhole_of_solid (by decide)
  | .bool false, _ => isWhole_of_solid (by decide)
  | .int32 n, _ => by
      rw [sql, Decimal.ofInt, String.toList_ofList]
      exact isWhole_of_solid (List.all_eq_true.mpr fun _ =>
        isSolid_of_mem_intDigits)
  | .int64 n, _ => by
      rw [sql, Decimal.ofInt, String.toList_ofList]
      exact isWhole_of_solid (List.all_eq_true.mpr fun _ =>
        isSolid_of_mem_intDigits)
  | .float64 _, hDouble => by simp [hasDouble] at hDouble
  | .string text, _ => isWhole_literal text
  | .bytes data, _ => by
      have hText :
          (sql (.bytes data)).toList =
            'X' :: ('\'' :: (Hex.digits data ++ ['\''])) := by
        simp [sql, Hex.ofBytes]
      rw [hText, ← List.singleton_append]
      exact isWhole_append (isWhole_of_solid (by decide))
        (isWhole_solidQuoted fun _ =>
          isSolid_of_mem_hexDigits)
  | .uuid data, _ => by
      have hText :
          (sql (.uuid data)).toList =
            '\'' :: ((uuidText data).toList ++ ['\'']) := by
        simp [sql]
      rw [hText]
      exact isWhole_solidQuoted fun _ =>
        isSolid_of_mem_uuidText
  | .list items, hDouble => by
      have hText :
          (sql (.list items)).toList =
            '(' :: ((sqlItems items).toList ++ [')']) := by
        simp [sql]
      rw [hText]
      exact isWhole_parens
        (isWhole_mono (isWhole_sqlItems items hDouble)
          (Nat.zero_le 1))

/- Literals with commas between them are one word. -/
private theorem isWhole_sqlItems :
    ∀ items : List Value, itemsHaveDouble items = false →
      IsWhole 0 (sqlItems items).toList
  | [], _ => isWhole_nil
  | [item], hDouble => by
      rw [itemsHaveDouble, Bool.or_eq_false_iff] at hDouble
      exact isWhole_sql item hDouble.1
  | item :: next :: rest, hDouble => by
      rw [itemsHaveDouble, Bool.or_eq_false_iff] at hDouble
      have hComma : IsWhole 0 ",".toList :=
        isWhole_of_solid (by decide)
      have hText :
          sqlItems (item :: next :: rest) =
            item.sql ++ "," ++ sqlItems (next :: rest) := rfl
      rw [hText, String.toList_append, String.toList_append]
      exact isWhole_append
        (isWhole_append (isWhole_sql item hDouble.1) hComma)
        (isWhole_sqlItems (next :: rest) hDouble.2)

end

end Value

end Relmap

------------------------------------------------------------
-- Literals Are No Keywords
------------------------------------------------------------

namespace Relmap

namespace Sql

/- The words that a clause ends at, or does not. -/
def keywords : List String :=
  ["AND", "OR", "BETWEEN"]

/-
  The word reads like an operand: it is NULL, or not all of
  it is capital letters.
-/
def IsOperand (word : String) : Prop :=
  word = "NULL" ∨ ∃ c ∈ word.toList, c.isUpper = false

/- An operand is no keyword. -/
theorem IsOperand.not_mem_keywords
    {word : String}
    (hWord : IsOperand word) :
    word ∉ keywords := by
  intro hMember
  rcases hWord with rfl | ⟨c, hChar, hLower⟩
  · revert hMember
    decide
  · have hUpper :
        ∀ keyword ∈ keywords,
          keyword.toList.all Char.isUpper = true := by
      decide
    have hCapital :=
      List.all_eq_true.mp (hUpper word hMember) c hChar
    rw [hCapital] at hLower
    exact absurd hLower (by decide)

end Sql

namespace Value

open Sql

/- A digit is no capital letter. -/
private theorem isUpper_of_isDigit
    {c : Char}
    (hDigit : c.isDigit = true) :
    c.isUpper = false := by
  have hDecimal : '0'.val ≤ c.val ∧ c.val ≤ '9'.val := by
    simpa [Char.isDigit] using hDigit
  apply decide_eq_false
  intro hUpper
  exact absurd
    (UInt32.le_trans hUpper.1 hDecimal.2) (by decide)

/- A whole number has a digit. -/
private theorem isOperand_ofInt (n : Int) :
    IsOperand (Decimal.ofInt n) := by
  have hSome :
      ∃ c ∈ Decimal.intDigits n, c.isUpper = false := by
    cases n with
    | ofNat m =>
        rcases List.exists_mem_of_ne_nil _
              (Nat.toDigits_ne_nil (n := m) (b := 10)) with
          ⟨c, hMember⟩
        have hDigit : c.isDigit = true :=
          Nat.isDigit_of_mem_toDigits (by decide)
            (by decide) hMember
        exact ⟨c, hMember, isUpper_of_isDigit hDigit⟩
    | negSucc m => exact ⟨'-', by simp [Decimal.intDigits],
        by decide⟩
  rw [IsOperand, Decimal.ofInt, String.toList_ofList]
  exact .inr hSome

/- No literal reads like a keyword. -/
theorem isOperand_sql
    (value : Value)
    (hDouble : value.hasDouble = false) :
    IsOperand value.sql := by
  cases value with
  | null => exact .inl rfl
  | bool truth =>
      cases truth <;>
        exact .inr ⟨'e', by decide, by decide⟩
  | int32 n => exact isOperand_ofInt n.toInt
  | int64 n => exact isOperand_ofInt n.toInt
  | float64 x => simp [hasDouble] at hDouble
  | string text =>
      exact .inr ⟨'\'', by simp [sql, Text.quoted],
        by decide⟩
  | bytes data =>
      exact .inr ⟨'\'', by simp [sql], by decide⟩
  | uuid data =>
      exact .inr ⟨'\'', by simp [sql], by decide⟩
  | list items =>
      exact .inr ⟨'(', by simp [sql], by decide⟩

end Value

end Relmap
