/-
This file reads whole numbers as a user may type them for a setting. They are
more liberal than the numbers of a program: space around them is skipped,
single underscores may group the digits, and the digits of any script count.
-/

import Forth.Text.Blank

namespace Forth.Text

/-! ### Digits of all scripts -/

/-- The code points of the digits zero. Each is followed by the other nine digits of its script
(by version 14 of the Unicode standard). -/
def zeroDigits : List Nat :=
  [0x30, 0x660, 0x6F0, 0x7C0, 0x966, 0x9E6, 0xA66, 0xAE6, 0xB66, 0xBE6, 0xC66, 0xCE6, 0xD66, 0xDE6,
    0xE50, 0xED0, 0xF20, 0x1040, 0x1090, 0x17E0, 0x1810, 0x1946, 0x19D0, 0x1A80, 0x1A90, 0x1B50,
    0x1BB0, 0x1C40, 0x1C50, 0xA620, 0xA8D0, 0xA900, 0xA9D0, 0xA9F0, 0xAA50, 0xABF0, 0xFF10, 0x104A0,
    0x10D30, 0x11066, 0x110F0, 0x11136, 0x111D0, 0x112F0, 0x11450, 0x114D0, 0x11650, 0x116C0,
    0x11730, 0x118E0, 0x11950, 0x11C50, 0x11D50, 0x11DA0, 0x16A60, 0x16AC0, 0x16B50, 0x1D7CE,
    0x1D7D8, 0x1D7E2, 0x1D7EC, 0x1D7F6, 0x1E140, 0x1E2F0, 0x1E950, 0x1FBF0]

/-- The value of a decimal digit of any script. -/
def digitValue? (character : Char) : Option Nat :=
  (zeroDigits.find? fun first => first ≤ character.toNat && character.toNat ≤ first + 9).map
    fun first => character.toNat - first

/-! ### Whole numbers -/

/-- The digits of a number in which single underscores may stand between digits. `afterDigit` says
whether the character before was a digit. -/
def groupedDigits? (afterDigit : Bool) : List Char → Option (List Nat)
  | [] => if afterDigit then some [] else none
  | character :: rest =>
    if character == '_' then
      if afterDigit then groupedDigits? false rest else none
    else do
      let value ← digitValue? character
      let values ← groupedDigits? true rest
      return value :: values

/-- The number that digits spell, if there are not more of them than the given limit. -/
def readGrouped? (limit : Nat) (characters : List Char) : Option Nat := do
  let values ← groupedDigits? false characters
  if limit < values.length then none
  else some (values.foldl (fun number value => 10 * number + value) 0)

/-- The characters that divide records. They are blank, but they are not space around a number. -/
def isDivider (character : Char) : Bool :=
  0x1C ≤ character.toNat && character.toNat ≤ 0x1F

/-- The characters that may stand before and after a number. -/
def isSpace (character : Char) : Bool :=
  isBlank character && !isDivider character

/-- The whole number that a text spells, with at most the given number of digits. -/
def readWhole? (limit : Nat) (text : String) : Option Int :=
  match trimWhile isSpace text.toList with
  | '-' :: digits => (readGrouped? limit digits).map fun magnitude => -(magnitude : Int)
  | '+' :: digits => (readGrouped? limit digits).map fun magnitude => (magnitude : Int)
  | digits => (readGrouped? limit digits).map fun magnitude => (magnitude : Int)

end Forth.Text
