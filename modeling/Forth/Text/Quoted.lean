/-
This file writes a text between quotes so that it can be told from other
values when a parser's result is shown.
-/

import Forth.Text.Printable

namespace Forth.Text

/-! ### Characters spelled by number -/

/-- A number in hexadecimal, in small letters and with leading zeros up to the given width. -/
def hexadecimal (width value : Nat) : String :=
  let digits := Nat.toDigits 16 value
  String.ofList (List.replicate (width - digits.length) '0' ++ digits)

/-- A character spelled by its number, in the shortest of three forms that has room for it. -/
def spellByNumber (character : Char) : String :=
  let value := character.toNat
  if value < 0x100 then "\\x" ++ hexadecimal 2 value
  else if value < 0x10000 then "\\u" ++ hexadecimal 4 value
  else "\\U" ++ hexadecimal 8 value

/-! ### Quoted texts -/

/-- The quote a text is put between: the single one, unless the text holds a single quote and no
double one. -/
def chooseQuote (text : String) : Char :=
  if text.toList.contains '\'' && !text.toList.contains '"' then '"' else '\''

/-- A character as it stands between the given quotes. -/
def quoteCharacter (quote character : Char) : String :=
  if character == quote || character == '\\' then String.ofList ['\\', character]
  else if character == '\n' then "\\n"
  else if character == '\r' then "\\r"
  else if character == '\t' then "\\t"
  else if isPrintable character then String.singleton character
  else spellByNumber character

/-- A text between quotes. -/
def quoted (text : String) : String :=
  let quote := chooseQuote text
  String.singleton quote ++ String.join (text.toList.map (quoteCharacter quote)) ++
    String.singleton quote

end Forth.Text
