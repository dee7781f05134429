/-
  Escapes for text that is placed between delimiters.

  Key definitions include:
    * `Text.doubleQuotes`
    * `Text.backslashEscapes`
    * `Text.escapeBackslash`
    * `Text.escapeLike`
    * `Text.quoted`
-/

------------------------------------------------------------
-- Doubled Quotes
------------------------------------------------------------

namespace Relmap

namespace Text

/- Write every single quote twice. -/
def doubleQuotes : List Char → List Char
  | [] => []
  | c :: rest =>
      if c = '\'' then
        '\'' :: '\'' :: doubleQuotes rest
      else
        c :: doubleQuotes rest

/- A text with its single quotes written twice. -/
def escapeQuotes (text : String) : String :=
  String.ofList (doubleQuotes text.toList)

/-
  A text as a quoted literal: doubled quotes inside, one
  quote on either side.
-/
def quoted (text : String) : String :=
  "'" ++ escapeQuotes text ++ "'"

end Text

end Relmap

------------------------------------------------------------
-- Backslash Escapes
------------------------------------------------------------

namespace Relmap

namespace Text

/-
  The letter that stands for a character after a backslash,
  for the characters that have one.
-/
def backslashLetter? (c : Char) : Option Char :=
  if c = '\x00' then some '0'
  else if c = '\\' then some '\\'
  else if c = '\n' then some 'n'
  else if c = '\r' then some 'r'
  else if c = '\x1a' then some 'Z'
  else if c = '"' then some '"'
  else if c = '\'' then some '\''
  else none

/-
  Write quotes, backslashes and control characters as a
  backslash and a letter.
-/
def backslashEscapes : List Char → List Char
  | [] => []
  | c :: rest =>
      match backslashLetter? c with
      | some letter => '\\' :: letter :: backslashEscapes rest
      | none => c :: backslashEscapes rest

/- A text with backslash escapes. -/
def escapeBackslash (text : String) : String :=
  String.ofList (backslashEscapes text.toList)

end Text

end Relmap

------------------------------------------------------------
-- Pattern Escapes
------------------------------------------------------------

namespace Relmap

namespace Text

/- The characters with a meaning of their own in a pattern. -/
def isPatternSign (c : Char) : Bool :=
  c = '\\' || c = '%' || c = '_'

/- Put a backslash in front of every pattern sign. -/
def literalPattern : List Char → List Char
  | [] => []
  | c :: rest =>
      if isPatternSign c then
        '\\' :: c :: literalPattern rest
      else
        c :: literalPattern rest

/- A text that matches itself only, as a pattern. -/
def escapeLike (text : String) : String :=
  String.ofList (literalPattern text.toList)

end Text

end Relmap
