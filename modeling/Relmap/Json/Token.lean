import Relmap.Json.Number

/-
  The tokens of JSON text.

  Text is read one character at a time. Letters, digits,
  signs and points that touch form one word, which must be
  `null`, `true`, `false` or a number literal.

  Key definitions include:
    * `Json.Token`
    * `Json.Piece`
    * `Json.joinPieces`
    * `Json.Scan`
    * `Json.tokens?`
-/

------------------------------------------------------------
-- Strings
------------------------------------------------------------

namespace Relmap

namespace Json

/- Part of a string: a character, or a sixteen-bit unit. -/
inductive Piece where
  | char (c : Char)
  | unit (value : Nat)

/- First halves of characters beyond sixteen bits. -/
def isLeading (unit : Nat) : Bool :=
  0xD800 ≤ unit && unit < 0xDC00

/- Second halves of characters beyond sixteen bits. -/
def isTrailing (unit : Nat) : Bool :=
  0xDC00 ≤ unit && unit < 0xE000

/- The character of two halves. -/
def pairChar
    (leading : Nat)
    (trailing : Nat) : Char :=
  Char.ofNat
    (0x10000 + (leading - 0xD800) * 0x400 +
      (trailing - 0xDC00))

/-
  The characters of a string, unless half of one stands
  alone.
-/
def joinPieces : List Piece → Option (List Char)
  | [] => some []
  | .char c :: rest => (joinPieces rest).map (c :: ·)
  | .unit first :: .unit second :: rest =>
      if isLeading first then
        if isTrailing second then
          (joinPieces rest).map (pairChar first second :: ·)
        else none
      else if isTrailing first then none
      else
        (joinPieces (.unit second :: rest)).map
          (Char.ofNat first :: ·)
  | .unit value :: rest =>
      if isLeading value || isTrailing value then none
      else (joinPieces rest).map (Char.ofNat value :: ·)

/- The character that a letter after a backslash means. -/
def simpleEscape? : Char → Option Char
  | '"' => some '"'
  | '\\' => some '\\'
  | '/' => some '/'
  | 'b' => some '\x08'
  | 'f' => some '\x0c'
  | 'n' => some '\n'
  | 'r' => some '\r'
  | 't' => some '\t'
  | _ => none

/- The value of a hexadecimal digit of either case. -/
def hexValue? (c : Char) : Option Nat :=
  if c.isDigit then some (c.toNat - '0'.toNat)
  else if 'a' ≤ c ∧ c ≤ 'f' then
    some (c.toNat - 'a'.toNat + 10)
  else if 'A' ≤ c ∧ c ≤ 'F' then
    some (c.toNat - 'A'.toNat + 10)
  else none

end Json

end Relmap

------------------------------------------------------------
-- Tokens
------------------------------------------------------------

namespace Relmap

namespace Json

/-
  Tokens. A string without a value is `none`, and so is a
  number beyond the range of doubles.
-/
inductive Token where
  | beginArray
  | endArray
  | beginObject
  | endObject
  | comma
  | colon
  | null
  | bool (value : Bool)
  | number (value : Option Number)
  | string (text : Option String)

/- The token of a word. -/
def Token.ofWord? (word : List Char) : Option Token :=
  match String.ofList word with
  | "null" => some .null
  | "true" => some (.bool true)
  | "false" => some (.bool false)
  | _ =>
      (Literal.read? word).map fun literal =>
        .number literal.value?

/- The token of a single character. -/
def Token.ofSign? : Char → Option Token
  | '[' => some .beginArray
  | ']' => some .endArray
  | '\x7b' => some .beginObject
  | '\x7d' => some .endObject
  | ',' => some .comma
  | ':' => some .colon
  | _ => none

/- The blanks of JSON text. -/
def isBlank (c : Char) : Bool :=
  c = ' ' || c = '\t' || c = '\n' || c = '\r'

/- Characters of words. -/
def isWordChar (c : Char) : Bool :=
  c.isAlphanum || c = '+' || c = '-' || c = '.'

end Json

end Relmap

------------------------------------------------------------
-- Scanning
------------------------------------------------------------

namespace Relmap

namespace Json

/-
  Where the scan stands: between tokens, in a word, in a
  string, behind its backslash, or in an escaped unit of
  which some digits are known. What was read of a word or a
  string is held in reverse.
-/
inductive Place where
  | between
  | word (chars : List Char)
  | text (pieces : List Piece)
  | escape (pieces : List Piece)
  | unit (pieces : List Piece) (count : Nat) (value : Nat)

/- A scan: the tokens so far in reverse, and the place. -/
structure Scan where
  tokens : List Token
  place : Place

/- Take a character between two tokens. -/
def Scan.start?
    (tokens : List Token)
    (c : Char) : Option Scan :=
  if isBlank c then some ⟨tokens, .between⟩
  else if c = '"' then some ⟨tokens, .text []⟩
  else if isWordChar c then some ⟨tokens, .word [c]⟩
  else
    (Token.ofSign? c).map fun token =>
      ⟨token :: tokens, .between⟩

/- Take a character in a string. -/
def Scan.extend?
    (tokens : List Token)
    (pieces : List Piece)
    (c : Char) : Option Scan :=
  if c = '"' then
    let text := (joinPieces pieces.reverse).map String.ofList
    some ⟨.string text :: tokens, .between⟩
  else if c = '\\' then some ⟨tokens, .escape pieces⟩
  else if c.toNat < 0x20 then none
  else some ⟨tokens, .text (.char c :: pieces)⟩

/- Take the next character. -/
def Scan.step?
    (scan : Scan)
    (c : Char) : Option Scan :=
  let tokens := scan.tokens
  match scan.place with
  | .between => Scan.start? tokens c
  | .word chars =>
      if isWordChar c then some ⟨tokens, .word (c :: chars)⟩
      else do
        let token ← Token.ofWord? chars.reverse
        Scan.start? (token :: tokens) c
  | .text pieces => Scan.extend? tokens pieces c
  | .escape pieces =>
      if c = 'u' then some ⟨tokens, .unit pieces 0 0⟩
      else
        (simpleEscape? c).map fun meant =>
          ⟨tokens, .text (.char meant :: pieces)⟩
  | .unit pieces count value => do
      let digit ← hexValue? c
      let next := 16 * value + digit
      if count = 3 then
        return ⟨tokens, .text (.unit next :: pieces)⟩
      else
        return ⟨tokens, .unit pieces (count + 1) next⟩

/- The tokens of a text, unless one is malformed. -/
def tokens? (text : List Char) : Option (List Token) := do
  let scan ← text.foldlM Scan.step? ⟨[], .between⟩
  match scan.place with
  | .between => return scan.tokens.reverse
  | .word chars =>
      let token ← Token.ofWord? chars.reverse
      return (token :: scan.tokens).reverse
  | _ => none

end Json

end Relmap
