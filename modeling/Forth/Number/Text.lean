/-
This file writes numbers as text and reads integers. An integer is written in
full, with at most as many digits as may also be read. A floating point number
is written as the shortest decimal that reads back, in positional notation if
its first digit is not too far from the point, and with an exponent otherwise.
-/

import Forth.Number.Basic
import Forth.Number.Shortest
import Forth.Text.Letter

namespace Forth.Number

/-! ### Integers -/

/-- The most digits that the decimal text of an integer may have. The sign does not count, but
leading zeros do. -/
def digitLimit : Nat := 4300

/-- The decimal text of an integer, unless it has too many digits. A magnitude with four bits or
more for each digit that is allowed has too many, because sixteen is more than ten, so its digits
need not be computed. -/
def intText? (value : Int) : Option String :=
  if 4 * digitLimit ≤ value.natAbs.log2 then none
  else
    let digits := Nat.toDigits 10 value.natAbs
    if digits.length ≤ digitLimit then
      some (String.ofList (if value < 0 then '-' :: digits else digits))
    else none

/-- The number that a list of digits spells, if there are neither none nor too many. -/
def readDigits? (digits : List Char) : Option Nat :=
  if digits.isEmpty || !digits.all Text.isDigit || digitLimit < digits.length then none
  else some (Nat.ofDigitChars 10 digits 0)

/-- The integer that a word spells: digits after at most one sign. -/
def readInt? (word : String) : Option Int :=
  match word.toList with
  | '-' :: digits => (readDigits? digits).map fun magnitude : Nat => -(magnitude : Int)
  | '+' :: digits => (readDigits? digits).map fun magnitude : Nat => (magnitude : Int)
  | digits => (readDigits? digits).map fun magnitude : Nat => (magnitude : Int)

/-! ### Floating point numbers -/

/-- The choices in writing a decimal: the exponents of the first digit that are written in
positional notation, from `least` up to but not including `limit`, and how many digits an
exponent has at least. -/
structure DecimalStyle where
  least : Int
  limit : Int
  exponentWidth : Nat

/-- Numbers from a ten-thousandth up to ten to the sixteenth are positional, and an exponent has
two digits or more. -/
def style : DecimalStyle := ⟨-4, 16, 2⟩

/-- The given number of zeros. -/
def zeros (count : Nat) : List Char :=
  List.replicate count '0'

/-- Digits with a point after the first of them, unless it is the only one. -/
def scientific : List Char → List Char
  | [] => []
  | [digit] => [digit]
  | digit :: rest => digit :: '.' :: rest

/-- Digits in positional notation, where `exponent` is the power of ten of the first. A number
without a fraction is written with one zero after the point. -/
def positional (digits : List Char) (exponent : Int) : List Char :=
  if exponent < 0 then '0' :: '.' :: zeros (-exponent - 1).toNat ++ digits
  else
    let whole := exponent.toNat + 1
    if digits.length ≤ whole then digits ++ zeros (whole - digits.length) ++ ['.', '0']
    else digits.take whole ++ '.' :: digits.drop whole

/-- An exponent with its sign and at least the given number of digits. -/
def exponentText (width : Nat) (exponent : Int) : List Char :=
  let digits := Nat.toDigits 10 exponent.natAbs
  (if exponent < 0 then '-' else '+') :: zeros (width - digits.length) ++ digits

/-- A decimal in a style. -/
def DecimalStyle.write (style : DecimalStyle) (decimal : Decimal) : List Char :=
  let digits := Nat.toDigits 10 decimal.units
  let exponent := decimal.place + (digits.length : Int) - 1
  let significant := (digits.reverse.dropWhile (· == '0')).reverse
  if style.least ≤ exponent && exponent < style.limit then positional significant exponent
  else scientific significant ++ 'e' :: exponentText style.exponentWidth exponent

/-- The text of a floating point number. -/
def floatText (value : Float) : String :=
  let bits := value.toBits.toNat
  let magnitude := bits % Nat.pow 2 63
  let sign := if Nat.pow 2 63 ≤ bits then ['-'] else []
  if infinityBits < magnitude then "nan"
  else if magnitude = infinityBits then String.ofList (sign ++ ['i', 'n', 'f'])
  else if magnitude = 0 then String.ofList (sign ++ ['0', '.', '0'])
  else String.ofList (sign ++ style.write (Dyadic.ofBits magnitude).shortest)

/-- The text of a number, unless it is an integer with too many digits. -/
def text? : Number → Option String
  | .int value => intText? value
  | .float value => some (floatText value)

end Forth.Number
