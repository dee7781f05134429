import Relmap.Decimal.Reader
import Relmap.Json.Token
import Relmap.Proofs.Value.Word

/-
  Literals are read back from their text.

  A reader of SQL literals takes the text of a literal off
  the front of a text, whatever strings hold and however
  lists nest. What it cannot tell from the text is the width
  of an integer, and an identifier of sixteen bytes from a
  string. Doubles are left out.

  Main declarations:
    * `Sql.readWithin`
    * `Sql.readLiteral`
    * `Value.Alike`
    * `Value.canonical`
    * `Value.alike_iff_canonical_eq`
    * `Value.readWithin_sql`
    * `Value.readLiteral_sql`
-/

------------------------------------------------------------
-- The Reader
------------------------------------------------------------

namespace Relmap

namespace Sql

/- The characters of words and of numbers. -/
def isWordSign (c : Char) : Bool :=
  c.isAlphanum || c = '-'

/- The integer that a word writes, if 64 bits hold it. -/
def readInteger? (word : List Char) : Option Int64 :=
  let (negative, digits) := Decimal.cutSign word
  let magnitude : Int := Decimal.readNat digits
  let n := if negative then -magnitude else magnitude
  if digits ≠ [] ∧ digits.all Char.isDigit ∧
      Int64.minValue.toInt ≤ n ∧
      n ≤ Int64.maxValue.toInt then
    some (.ofInt n)
  else none

/- The literal that is written as a word. -/
def word? (word : List Char) : Option Value :=
  if word = "NULL".toList then some .null
  else if word = "true".toList then some (.bool true)
  else if word = "false".toList then some (.bool false)
  else (readInteger? word).map .int64

/-
  The characters up to the quote that ends a string, and the
  text behind it. Two quotes are one character.
-/
def readQuoted :
    List Char → Option (List Char × List Char)
  | [] => none
  | '\'' :: '\'' :: text =>
      (readQuoted text).map fun (content, rest) =>
        ('\'' :: content, rest)
  | '\'' :: text => some ([], text)
  | c :: text =>
      (readQuoted text).map fun (content, rest) =>
        (c :: content, rest)

/- The bytes up to a quote, two digits for every byte. -/
def readBytes :
    List Char → Option (List UInt8 × List Char)
  | '\'' :: text => some ([], text)
  | first :: second :: text => do
      let high ← Json.hexValue? first
      let low ← Json.hexValue? second
      let (bytes, rest) ← readBytes text
      return (.ofNat (16 * high + low) :: bytes, rest)
  | _ => none

mutual

/-
  A literal at the start of a text and the text behind it,
  in at most so many steps.
-/
def readWithin :
    Nat → List Char → Option (Value × List Char)
  | 0, _ => none
  | _ + 1, [] => none
  | steps + 1, c :: text =>
      if c = '(' then
        if text.head? = some ')' then
          some (.list [], text.tail)
        else
          (readItems steps text).map fun (items, rest) =>
            (.list items, rest)
      else if c = '\'' then
        (readQuoted text).map fun (content, rest) =>
          (.string (String.ofList content), rest)
      else if c = 'X' ∧ text.head? = some '\'' then
        (readBytes text.tail).map fun (bytes, rest) =>
          (.bytes bytes, rest)
      else
        (word? ((c :: text).takeWhile isWordSign)).map
          fun value =>
            (value, (c :: text).dropWhile isWordSign)

/- The items up to the parenthesis that ends their list. -/
def readItems :
    Nat → List Char → Option (List Value × List Char)
  | 0, _ => none
  | steps + 1, text => do
      let (item, rest) ← readWithin steps text
      match rest with
      | ',' :: more => do
          let (items, behind) ← readItems steps more
          return (item :: items, behind)
      | ')' :: behind => return ([item], behind)
      | _ => none

end

/-
  A literal at the start of a text and the text behind it.
  Every step takes a character at least.
-/
def readLiteral (text : String) : Option (Value × String) :=
  (readWithin text.length text.toList).map
    fun (value, rest) => (value, String.ofList rest)

/- A literal ends before a blank, a comma or a parenthesis. -/
def EndsLiteral (text : List Char) : Prop :=
  ∀ c ∈ text.head?, c = ' ' ∨ c = ',' ∨ c = ')'

end Sql

end Relmap

------------------------------------------------------------
-- Literals With One Text
------------------------------------------------------------

namespace Relmap

namespace Value

/-
  Literals that are the same but for the width of integers
  and for identifiers that are written as strings.
-/
inductive Alike : Value → Value → Prop where
  | width (n : Int32) : Alike (.int32 n) (.int64 n.toInt64)
  | identifier (data : Vector UInt8 16) :
      Alike (.uuid data) (.string (uuidText data))
  | item {left right : Value}
      (before after : List Value)
      (hItem : Alike left right) :
      Alike (.list (before ++ left :: after))
        (.list (before ++ right :: after))
  | refl (value : Value) : Alike value value
  | symm {left right : Value}
      (hAlike : Alike left right) : Alike right left
  | trans {left middle right : Value}
      (hFirst : Alike left middle)
      (hSecond : Alike middle right) : Alike left right

mutual

/- The literal with wide integers and without identifiers. -/
def canonical : Value → Value
  | .int32 n => .int64 n.toInt64
  | .uuid data => .string (uuidText data)
  | .list items => .list (canonicalItems items)
  | value => value

def canonicalItems : List Value → List Value
  | [] => []
  | item :: rest => item.canonical :: canonicalItems rest

end

theorem canonicalItems_append
    (before after : List Value) :
    canonicalItems (before ++ after) =
      canonicalItems before ++ canonicalItems after := by
  induction before with
  | nil => rfl
  | cons item rest ih =>
      simp only [List.cons_append, canonicalItems, ih]

mutual

/- By induction on the literal: every item is replaced. -/
theorem alike_canonical :
    ∀ value : Value, Alike value value.canonical
  | .null => .refl _
  | .bool _ => .refl _
  | .int32 n => .width n
  | .int64 _ => .refl _
  | .float64 _ => .refl _
  | .string _ => .refl _
  | .bytes _ => .refl _
  | .uuid data => .identifier data
  | .list items => alike_canonicalItems [] items

/- One after the other, those before it being replaced. -/
private theorem alike_canonicalItems
    (before : List Value) :
    ∀ items : List Value,
      Alike (.list (before ++ items))
        (.list (before ++ canonicalItems items))
  | [] => .refl _
  | item :: rest => by
      have hRest :=
        alike_canonicalItems (before ++ [item.canonical]) rest
      rw [List.append_assoc, List.append_assoc] at hRest
      exact .trans (.item before rest (alike_canonical item))
        hRest

end

/- Literals are alike exactly if replacing makes them equal. -/
theorem alike_iff_canonical_eq
    {left right : Value} :
    left.Alike right ↔ left.canonical = right.canonical := by
  constructor
  · intro hAlike
    induction hAlike with
    | width n => rfl
    | identifier data => rfl
    | item before after _ ih =>
        simp only [canonical, canonicalItems_append,
          canonicalItems, ih]
    | refl value => rfl
    | symm _ ih => exact ih.symm
    | trans _ _ ihFirst ihSecond => exact ihFirst.trans ihSecond
  · intro hSame
    have hLeft := alike_canonical left
    rw [hSame] at hLeft
    exact hLeft.trans (alike_canonical right).symm

end Value

end Relmap

------------------------------------------------------------
-- Reading Parts
------------------------------------------------------------

namespace Relmap

/- A number is read back from its digits. -/
theorem Decimal.readNat_natDigits (n : Nat) :
    readNat (natDigits n) = n := by
  have hFold :
      readNat (natDigits n) =
        Nat.ofDigitChars 10 (Nat.toDigits 10 n) 0 :=
    Nat.ofDigitChars_eq_foldl.symm
  rw [hFold, Nat.ofDigitChars_ten_toDigits]

theorem Decimal.isDigit_of_mem_natDigits
    {n : Nat}
    {c : Char}
    (hMember : c ∈ natDigits n) :
    c.isDigit = true :=
  Nat.isDigit_of_mem_toDigits (by decide) (by decide) hMember

/- Digits without a sign. -/
theorem Decimal.cutSign_natDigits (n : Nat) :
    cutSign (natDigits n) = (false, natDigits n) := by
  cases hDigits : natDigits n with
  | nil => rfl
  | cons c rest =>
      have hMember : c ∈ natDigits n := by
        simp [hDigits]
      have hDigit := isDigit_of_mem_natDigits hMember
      -- A sign is no digit.
      unfold cutSign
      split
      · simp_all
      · simp_all
      · rfl

namespace Sql

/- An integer of 64 bits is read back from its digits. -/
theorem readInteger?_intDigits (n : Int64) :
    readInteger? (Decimal.intDigits n.toInt) = some n := by
  have hDigits (m : Nat) :
      Decimal.natDigits m ≠ [] ∧
        (Decimal.natDigits m).all Char.isDigit = true :=
    ⟨Nat.toDigits_ne_nil,
      List.all_eq_true.mpr fun _ =>
        Decimal.isDigit_of_mem_natDigits⟩
  have hLeast := n.minValue_le_toInt
  have hMost := n.toInt_le
  have hBack : Int64.ofInt n.toInt = n := n.ofInt_toInt
  generalize n.toInt = m at *
  unfold readInteger?
  cases m with
  | ofNat m =>
      rw [Decimal.intDigits, Decimal.cutSign_natDigits]
      simp only [Decimal.readNat_natDigits, Bool.false_eq_true,
        if_false]
      rw [if_pos ⟨(hDigits m).1, (hDigits m).2, hLeast, hMost⟩,
        ← hBack]
      rfl
  | negSucc m =>
      rw [Decimal.intDigits, Decimal.cutSign]
      simp only [Decimal.readNat_natDigits, if_true]
      rw [if_pos ⟨(hDigits _).1, (hDigits _).2, hLeast, hMost⟩,
        ← hBack]
      rfl

/- The quotes of a text are read back in pairs. -/
theorem readQuoted_doubleQuotes
    (text : List Char)
    {rest : List Char}
    (hRest : rest.head? ≠ some '\'') :
    readQuoted (Text.doubleQuotes text ++ '\'' :: rest) =
      some (text, rest) := by
  induction text with
  | nil =>
      cases rest with
      | nil => rfl
      | cons c rest =>
          have hQuote : c ≠ '\'' := by simpa using hRest
          simp [Text.doubleQuotes, readQuoted, hQuote]
  | cons c text ih =>
      rw [Text.doubleQuotes]
      by_cases hQuote : c = '\''
      · rw [if_pos hQuote, List.cons_append, List.cons_append,
          readQuoted, ih, hQuote]
        rfl
      · rw [if_neg hQuote, List.cons_append, readQuoted, ih]
        · rfl
        · exact fun _ hFirst _ => hQuote hFirst
        · exact hQuote

/- A hexadecimal digit is read back. -/
theorem hexValue?_digit
    {n : Nat}
    (hDigit : n < 16) :
    Json.hexValue? (Hex.digit n) = some n := by
  revert n
  decide

/- Bytes are read back from their digits. -/
theorem readBytes_digits
    (bytes : List UInt8)
    (rest : List Char) :
    readBytes (Hex.digits bytes ++ '\'' :: rest) =
      some (bytes, rest) := by
  induction bytes with
  | nil => rfl
  | cons byte bytes ih =>
      have hByte : byte.toNat < 256 := byte.toNat_lt
      have hHigh : byte.toNat / 16 < 16 := by omega
      have hLow : byte.toNat % 16 < 16 := by omega
      have hBack :
          UInt8.ofNat
              (16 * (byte.toNat / 16) + byte.toNat % 16) =
            byte := by
        rw [Nat.div_add_mod, UInt8.ofNat_toNat]
      rw [Hex.digits, List.cons_append, List.cons_append,
        readBytes]
      · rw [hexValue?_digit hHigh, hexValue?_digit hLow, ih]
        simp only [Option.bind_eq_bind, Option.bind_some, hBack]
        rfl
      · exact Nat.digitChar_ne _ (by decide)

end Sql

end Relmap

------------------------------------------------------------
-- Reading Literals
------------------------------------------------------------

namespace Relmap

namespace Sql

variable {text rest : List Char}
variable {steps : Nat}

theorem endsLiteral_nil : EndsLiteral [] := by
  intro c hHead
  cases hHead

theorem endsLiteral_comma : EndsLiteral (',' :: rest) := by
  intro c hHead
  cases hHead
  exact .inr (.inl rfl)

theorem endsLiteral_parenthesis :
    EndsLiteral (')' :: rest) := by
  intro c hHead
  cases hHead
  exact .inr (.inr rfl)

/- What may follow a literal is no part of a word. -/
theorem EndsLiteral.isWordSign_eq_false
    (hEnd : EndsLiteral rest)
    {c : Char}
    (hHead : rest.head? = some c) :
    isWordSign c = false := by
  rcases hEnd c hHead with rfl | rfl | rfl <;> decide

theorem EndsLiteral.head?_ne_quote
    (hEnd : EndsLiteral rest) :
    rest.head? ≠ some '\'' := by
  intro hHead
  rcases hEnd '\'' hHead with hSame | hSame | hSame <;>
    exact absurd hSame (by decide)

/- A word ends where the literal does. -/
theorem EndsLiteral.takeWhile_append
    (hEnd : EndsLiteral rest)
    (hWord : ∀ c ∈ text, isWordSign c = true) :
    (text ++ rest).takeWhile isWordSign = text ∧
      (text ++ rest).dropWhile isWordSign = rest := by
  rw [List.takeWhile_append_of_pos hWord,
    List.dropWhile_append_of_pos hWord]
  cases rest with
  | nil => simp
  | cons c rest =>
      have hSign : ¬ isWordSign c = true := by
        simp [hEnd.isWordSign_eq_false rfl]
      rw [List.takeWhile_cons_of_neg hSign,
        List.dropWhile_cons_of_neg hSign, List.append_nil]
      exact ⟨rfl, rfl⟩

/- A word is read as the literal that it stands for. -/
theorem readWithin_word
    (text : List Char)
    {value : Value}
    (hSigns : text.all isWordSign = true)
    (hValue : word? text = some value)
    (hEnd : EndsLiteral rest) :
    readWithin (steps + 1) (text ++ rest) =
      some (value, rest) := by
  have hWord := List.all_eq_true.mp hSigns
  rcases hEnd.takeWhile_append hWord with ⟨hTake, hDrop⟩
  cases text with
  | nil => cases hValue
  | cons c text =>
      have hSign := hWord c List.mem_cons_self
      have hParenthesis : c ≠ '(' := by
        rintro rfl
        exact absurd hSign (by decide)
      have hQuote : c ≠ '\'' := by
        rintro rfl
        exact absurd hSign (by decide)
      have hNext : (text ++ rest).head? ≠ some '\'' := by
        cases text with
        | nil => exact hEnd.head?_ne_quote
        | cons next text =>
            intro hHead
            cases hHead
            exact absurd (hWord '\'' (by simp)) (by decide)
      rw [List.cons_append] at hTake hDrop ⊢
      rw [readWithin, if_neg hParenthesis, if_neg hQuote,
        if_neg (fun hBytes => hNext hBytes.2), hTake, hDrop,
        hValue]
      rfl

/- No literal begins with a closing parenthesis. -/
theorem readItems_parenthesis :
    readItems steps (')' :: text) = none := by
  cases steps with
  | zero => rfl
  | succ steps =>
      have hFirst : readWithin steps (')' :: text) = none := by
        cases steps with
        | zero => rfl
        | succ steps =>
            rw [readWithin, if_neg (by decide),
              if_neg (by decide), if_neg (by simp)]
            rfl
      rw [readItems, hFirst]
      rfl

/- The last item stands before the parenthesis. -/
theorem readItems_last
    {item : Value}
    (hItem : readWithin steps text = some (item, ')' :: rest)) :
    readItems (steps + 1) text = some ([item], rest) := by
  rw [readItems, hItem]
  rfl

/- Any other stands before a comma. -/
theorem readItems_comma
    {item : Value}
    {items : List Value}
    {more : List Char}
    (hItem : readWithin steps text = some (item, ',' :: more))
    (hItems : readItems steps more = some (items, rest)) :
    readItems (steps + 1) text =
      some (item :: items, rest) := by
  rw [readItems, hItem]
  simp only [Option.bind_eq_bind, Option.bind_some, hItems]
  rfl

/- Items in parentheses are read as a list. -/
theorem readWithin_group
    {items : List Value}
    (hItems : readItems steps text = some (items, rest)) :
    readWithin (steps + 1) ('(' :: text) =
      some (.list items, rest) := by
  have hSome : text.head? ≠ some ')' := by
    intro hHead
    rcases List.head?_eq_some_iff.mp hHead with ⟨tail, rfl⟩
    rw [readItems_parenthesis] at hItems
    cases hItems
  rw [readWithin, if_pos rfl, if_neg hSome, hItems]
  rfl

end Sql

end Relmap

------------------------------------------------------------
-- Literals Are Read Back
------------------------------------------------------------

namespace Relmap

/- A text without quotes has none to double. -/
theorem Text.doubleQuotes_of_not_mem
    {text : List Char}
    (hQuote : '\'' ∉ text) :
    doubleQuotes text = text := by
  induction text with
  | nil => rfl
  | cons c text ih =>
      rw [List.mem_cons, not_or] at hQuote
      rw [doubleQuotes, if_neg (Ne.symm hQuote.1),
        ih hQuote.2]

namespace Value

open Sql

/- An identifier is written as the string of its text. -/
theorem sql_uuid (data : Vector UInt8 16) :
    (Value.uuid data).sql =
      (Value.string (uuidText data)).sql := by
  have hQuote : '\'' ∉ (uuidText data).toList := by
    intro hMember
    exact absurd (isSolid_of_mem_uuidText hMember) (by decide)
  rw [sql, sql, Text.quoted, Text.escapeQuotes,
    Text.doubleQuotes_of_not_mem hQuote, String.ofList_toList]

theorem sqlItems_cons_cons
    (item next : Value)
    (rest : List Value) :
    sqlItems (item :: next :: rest) =
      item.sql ++ "," ++ sqlItems (next :: rest) := rfl

theorem sql_int32 (n : Int32) :
    (Value.int32 n).sql = (Value.int64 n.toInt64).sql := by
  rw [sql, sql, Int32.toInt_toInt64]

mutual

/- Replacing does not change the text. -/
theorem sql_canonical :
    ∀ value : Value, value.canonical.sql = value.sql
  | .null => rfl
  | .bool _ => rfl
  | .int32 n => (sql_int32 n).symm
  | .int64 _ => rfl
  | .float64 _ => rfl
  | .string _ => rfl
  | .bytes _ => rfl
  | .uuid data => (sql_uuid data).symm
  | .list items => by
      rw [canonical, sql, sql, sqlItems_canonicalItems items]

theorem sqlItems_canonicalItems :
    ∀ items : List Value,
      sqlItems (canonicalItems items) = sqlItems items
  | [] => rfl
  | [item] => sql_canonical item
  | item :: next :: rest => by
      have hRest := sqlItems_canonicalItems (next :: rest)
      rw [canonicalItems] at hRest ⊢
      rw [canonicalItems, sqlItems_cons_cons, hRest,
        sql_canonical item, sqlItems_cons_cons]

end

/- The text of a literal is not empty. -/
theorem length_sql_pos
    {value : Value}
    (hDouble : value.hasDouble = false) :
    0 < value.sql.toList.length := by
  rcases isOperand_sql value hDouble with
    hNull | ⟨c, hMember, _⟩
  · rw [hNull]
    decide
  · exact List.length_pos_of_mem hMember

/- A string is read up to the quote that ends it. -/
theorem readWithin_string
    {steps : Nat}
    {rest : List Char}
    (hEnd : EndsLiteral rest)
    (text : String) :
    readWithin (steps + 1)
        ((Value.string text).sql.toList ++ rest) =
      some (.string text, rest) := by
  have hText :
      (Value.string text).sql.toList ++ rest =
        '\'' :: (Text.doubleQuotes text.toList ++
          '\'' :: rest) := by
    simp [sql, Text.quoted, Text.escapeQuotes]
  rw [hText, readWithin, if_neg (by decide), if_pos rfl,
    readQuoted_doubleQuotes _ hEnd.head?_ne_quote]
  simp only [Option.map_some, String.ofList_toList]

theorem readWithin_bytes
    {steps : Nat}
    (rest : List Char)
    (data : List UInt8) :
    readWithin (steps + 1)
        ((Value.bytes data).sql.toList ++ rest) =
      some (.bytes data, rest) := by
  have hText :
      (Value.bytes data).sql.toList ++ rest =
        'X' :: '\'' :: (Hex.digits data ++ '\'' :: rest) := by
    simp [sql, Hex.ofBytes]
  rw [hText, readWithin, if_neg (by decide),
    if_neg (by decide), if_pos ⟨rfl, rfl⟩, List.tail_cons,
    readBytes_digits]
  rfl

/- Whole numbers are written in signs of words. -/
theorem isWordSign_of_mem_intDigits
    {n : Int}
    {c : Char}
    (hMember : c ∈ Decimal.intDigits n) :
    isWordSign c = true := by
  have hDigits (m : Nat) (hDigit : c ∈ Decimal.natDigits m) :
      isWordSign c = true := by
    have hOne := Decimal.isDigit_of_mem_natDigits hDigit
    simp [isWordSign, Char.isAlphanum, hOne]
  cases n with
  | ofNat m => exact hDigits m hMember
  | negSucc m =>
      rcases List.mem_cons.mp hMember with rfl | hMember
      · decide
      · exact hDigits (m + 1) hMember

/- They begin with no letter, so no other word is one. -/
theorem word?_intDigits (n : Int64) :
    word? (Decimal.intDigits n.toInt) = some (.int64 n) := by
  have hOther {word : String}
      (hNone : readInteger? word.toList = none) :
      Decimal.intDigits n.toInt ≠ word.toList := by
    intro hSame
    rw [← hSame, readInteger?_intDigits] at hNone
    cases hNone
  rw [word?, if_neg (hOther (by decide)),
    if_neg (hOther (by decide)), if_neg (hOther (by decide)),
    readInteger?_intDigits]
  rfl

theorem readWithin_null
    {steps : Nat}
    {rest : List Char}
    (hEnd : EndsLiteral rest) :
    readWithin (steps + 1) (Value.null.sql.toList ++ rest) =
      some (.null, rest) :=
  readWithin_word "NULL".toList (by decide) (if_pos rfl) hEnd

theorem readWithin_bool
    {steps : Nat}
    {rest : List Char}
    (hEnd : EndsLiteral rest)
    (truth : Bool) :
    readWithin (steps + 1)
        ((Value.bool truth).sql.toList ++ rest) =
      some (.bool truth, rest) := by
  cases truth with
  | true =>
      have hValue :
          word? "true".toList = some (.bool true) := by
        rw [word?, if_neg (by decide), if_pos rfl]
      exact readWithin_word "true".toList (by decide) hValue
        hEnd
  | false =>
      have hValue :
          word? "false".toList = some (.bool false) := by
        rw [word?, if_neg (by decide), if_neg (by decide),
          if_pos rfl]
      exact readWithin_word "false".toList (by decide) hValue
        hEnd

theorem readWithin_int64
    {steps : Nat}
    {rest : List Char}
    (hEnd : EndsLiteral rest)
    (n : Int64) :
    readWithin (steps + 1)
        ((Value.int64 n).sql.toList ++ rest) =
      some (.int64 n, rest) := by
  have hText :
      (Value.int64 n).sql.toList =
        Decimal.intDigits n.toInt := by
    rw [sql, Decimal.ofInt, String.toList_ofList]
  rw [hText]
  have hSigns :
      (Decimal.intDigits n.toInt).all isWordSign = true :=
    List.all_eq_true.mpr fun _ => isWordSign_of_mem_intDigits
  exact readWithin_word _ hSigns (word?_intDigits n) hEnd

mutual

/-
  By induction on the literal: whatever ends a literal may
  follow it, as a comma or a parenthesis does an item.
-/
theorem readWithin_sql :
    ∀ value : Value, value.hasDouble = false →
      ∀ (steps : Nat) (rest : List Char),
        value.sql.toList.length ≤ steps + 1 →
        EndsLiteral rest →
        readWithin (steps + 1) (value.sql.toList ++ rest) =
          some (value.canonical, rest)
  | .null, _ => fun _ _ _ hEnd => readWithin_null hEnd
  | .bool truth, _ => fun _ _ _ hEnd =>
      readWithin_bool hEnd truth
  | .int32 n, _ => fun _ _ _ hEnd => by
      rw [sql_int32]
      exact readWithin_int64 hEnd n.toInt64
  | .int64 n, _ => fun _ _ _ hEnd => readWithin_int64 hEnd n
  | .float64 _, hDouble => by simp [hasDouble] at hDouble
  | .string text, _ => fun _ _ _ hEnd =>
      readWithin_string hEnd text
  | .bytes data, _ => fun _ rest _ _ =>
      readWithin_bytes rest data
  | .uuid data, _ => fun _ _ _ hEnd => by
      rw [sql_uuid]
      exact readWithin_string hEnd (uuidText data)
  | .list [], _ => fun _ _ _ _ => rfl
  | .list (item :: others), hDouble => by
      intro steps rest hSteps _
      have hText :
          (sql (.list (item :: others))).toList =
            '(' :: ((sqlItems (item :: others)).toList ++
              [')']) := by
        simp [sql]
      rw [hText, List.length_cons, List.length_append,
        List.length_singleton] at hSteps
      rw [hText, List.cons_append, List.append_assoc]
      apply readWithin_group
      exact readItems_sqlItems (item :: others) hDouble steps
        rest (List.cons_ne_nil _ _) (by omega)

/- By induction on the items. -/
theorem readItems_sqlItems :
    ∀ items : List Value, itemsHaveDouble items = false →
      ∀ (steps : Nat) (rest : List Char),
        items ≠ [] →
        (sqlItems items).toList.length < steps →
        readItems steps
            ((sqlItems items).toList ++ ')' :: rest) =
          some (canonicalItems items, rest)
  | [], _ => fun _ _ hSome => absurd rfl hSome
  | [item], hDouble => by
      intro steps rest _ hSteps
      rw [itemsHaveDouble, Bool.or_eq_false_iff] at hDouble
      have hText : sqlItems [item] = item.sql := rfl
      rw [hText] at hSteps ⊢
      have hSome := length_sql_pos hDouble.1
      obtain ⟨left, rfl⟩ : ∃ left, steps = left + 2 :=
        ⟨steps - 2, by omega⟩
      apply readItems_last
      exact readWithin_sql item hDouble.1 left (')' :: rest)
        (by omega) endsLiteral_parenthesis
  | item :: next :: others, hDouble => by
      intro steps rest _ hSteps
      rw [itemsHaveDouble, Bool.or_eq_false_iff] at hDouble
      have hText :
          (sqlItems (item :: next :: others)).toList =
            item.sql.toList ++
              ',' :: (sqlItems (next :: others)).toList := by
        simp [sqlItems_cons_cons]
      rw [hText, List.length_append, List.length_cons]
        at hSteps
      rw [hText, List.append_assoc, List.cons_append]
      obtain ⟨left, rfl⟩ : ∃ left, steps = left + 2 :=
        ⟨steps - 2, by omega⟩
      apply readItems_comma
      · exact readWithin_sql item hDouble.1 left _ (by omega)
          endsLiteral_comma
      · exact readItems_sqlItems (next :: others) hDouble.2
          (left + 1) rest (List.cons_ne_nil _ _) (by omega)

end

/-
  A literal without doubles is read back in front of
  whatever ends a literal: the reader takes its text and
  nothing else, and gives the literal with wide integers and
  with strings for identifiers. So two literals have one
  text exactly if they are alike.
-/
theorem readLiteral_sql :
    (∀ (value : Value) (rest : String),
        value.hasDouble = false →
        EndsLiteral rest.toList →
          readLiteral (value.sql ++ rest) =
              some (value.canonical, rest) ∧
            value.canonical.Alike value) ∧
      ∀ left right : Value,
        left.hasDouble = false →
        right.hasDouble = false →
          (left.sql = right.sql ↔ left.Alike right) := by
  have hRead (value : Value) (rest : String)
      (hDouble : value.hasDouble = false)
      (hEnd : EndsLiteral rest.toList) :
      readLiteral (value.sql ++ rest) =
        some (value.canonical, rest) := by
    have hSome := length_sql_pos hDouble
    have hLength :
        (value.sql ++ rest).length =
          value.sql.toList.length + rest.length - 1 + 1 := by
      rw [String.length_append, String.length_toList] at *
      omega
    rw [readLiteral, hLength, String.toList_append,
      readWithin_sql value hDouble _ _ (by omega) hEnd]
    simp only [Option.map_some, String.ofList_toList]
  constructor
  · intro value rest hDouble hEnd
    exact ⟨hRead value rest hDouble hEnd,
      (alike_canonical value).symm⟩
  · intro left right hLeft hRight
    rw [alike_iff_canonical_eq]
    constructor
    · intro hText
      have hFirst := hRead left "" hLeft endsLiteral_nil
      rw [hText, hRead right "" hRight endsLiteral_nil,
        Option.some.injEq, Prod.mk.injEq] at hFirst
      exact hFirst.1.symm
    · intro hSame
      rw [← sql_canonical left, hSame, sql_canonical right]

/- A list with a string that looks like the end of it. -/
private def deceptiveList : Value :=
  .list [
    .string "it's), 'x",
    .list [.int32 (-5), .bytes [222, 173], .list []],
    .uuid (Vector.replicate 16 0),
    .null]

theorem readLiteral_sql_deceptiveList :
    readLiteral (deceptiveList.sql ++ ", 'x'") =
        some (deceptiveList.canonical, ", 'x'") ∧
      deceptiveList.canonical.Alike deceptiveList ∧
      (Value.uuid (Vector.replicate 16 0)).Alike
        (.string "00000000-0000-0000-0000-000000000000") := by
  have hComma : EndsLiteral ", 'x'".toList :=
    endsLiteral_comma
  have hRead :=
    readLiteral_sql.1 deceptiveList ", 'x'" rfl hComma
  have hText :
      (Value.uuid (Vector.replicate 16 0)).sql =
        (Value.string
          "00000000-0000-0000-0000-000000000000").sql := by
    decide +kernel
  exact ⟨hRead.1, hRead.2,
    (readLiteral_sql.2 _ _ rfl rfl).mp hText⟩

end Value

end Relmap
