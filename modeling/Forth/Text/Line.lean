/-
This file splits a text into lines. A line ends with a line feed, a carriage
return, or both in this order, and the last line may lack its end.
-/

namespace Forth.Text

/-- The lines of a text of which the characters in `reversed` have been read already and belong to
an unfinished line. -/
def splitLinesAfter (reversed : List Char) : List Char → List (List Char)
  | [] => if reversed.isEmpty then [] else [reversed.reverse]
  | '\r' :: '\n' :: rest => reversed.reverse :: splitLinesAfter [] rest
  | character :: rest =>
    if character == '\n' || character == '\r' then reversed.reverse :: splitLinesAfter [] rest
    else splitLinesAfter (character :: reversed) rest

/-- The lines of a text, without their ends. -/
def lines (text : String) : List String :=
  (splitLinesAfter [] text.toList).map String.ofList

end Forth.Text
