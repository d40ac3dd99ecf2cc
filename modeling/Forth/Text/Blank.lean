/-
This file splits a text into words. Words are separated by blank characters
only, so where a line ends, or how wide a gap is, never matters to a program.
-/

namespace Forth.Text

/-! ### Blank characters -/

/-- The code points that separate words, as inclusive ranges: the control characters that move
the cursor or divide records, and every Unicode space and line separator. -/
def blankRanges : List (Nat × Nat) :=
  [(0x09, 0x0D), (0x1C, 0x20), (0x85, 0x85), (0xA0, 0xA0), (0x1680, 0x1680), (0x2000, 0x200A),
    (0x2028, 0x2029), (0x202F, 0x202F), (0x205F, 0x205F), (0x3000, 0x3000)]

/-- A blank character lies in one of the blank ranges. -/
def isBlank (character : Char) : Bool :=
  blankRanges.any fun range => range.1 ≤ character.toNat && character.toNat ≤ range.2

/-! ### Words -/

/-- The word that a run of characters spells, given last character first. An empty run spells
no word at all. -/
def finishWord (reversed : List Char) : List (List Char) :=
  if reversed.isEmpty then [] else [reversed.reverse]

/-- The words of a text of which the characters in `reversed` have been read already and belong
to an unfinished word. -/
def splitAfter (reversed : List Char) : List Char → List (List Char)
  | [] => finishWord reversed
  | character :: rest =>
    if isBlank character then finishWord reversed ++ splitAfter [] rest
    else splitAfter (character :: reversed) rest

/-- The maximal runs of characters that are not blank, from left to right. -/
def splitWords (text : List Char) : List (List Char) :=
  splitAfter [] text

/-- The words of a text. No word is empty, and none holds a blank character. -/
def words (text : String) : List String :=
  (splitWords text.toList).map String.ofList

/-- A list of characters without those at its two ends that are of some kind. -/
def trimWhile (isKind : Char → Bool) (characters : List Char) : List Char :=
  ((characters.dropWhile isKind).reverse.dropWhile isKind).reverse

/-- A text without the blank characters at its two ends. -/
def trim (text : String) : String :=
  String.ofList (trimWhile isBlank text.toList)

end Forth.Text
