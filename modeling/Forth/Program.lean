/-
This file reads a text as a program. All of the text has to be used up. When a
word is left over, the failure of the statement that would begin with it tells
what is wrong, and an error without an offending word means that the text ended
within a definition.
-/

import Forth.Grammar
import Forth.Text.Blank

namespace Forth

open Forth.Parser (Failure Repetition)

/-- Reads as many statements as there are at the beginning of the given words. The rules of the
language always have an outcome, so there is no case to make of a fault. -/
def readStatements (words : List Word) : Repetition :=
  let room := Parser.sufficientRoom Grammar.rules words
  match Parser.repeatWith (Parser.applyWithin Grammar.rules room Grammar.statement) words with
  | .ok repetition => repetition
  | .error _ => ⟨[], words, .noProgress none⟩

/-- The tokens of a program whose statements were read, if no words are left over. -/
def tokensOfReading (reading : Repetition) : Except Failure (List Token) :=
  if reading.remainder.isEmpty then .ok (reading.members.filterMap Parser.Match.token?)
  else .error reading.failure

/-- The tokens of a program, given its words. -/
def parseWords (words : List Word) : Except Failure (List Token) :=
  tokensOfReading (readStatements words)

/-- The tokens of a program, given its text. -/
def parse (text : String) : Except Failure (List Token) :=
  parseWords (Text.words text)

end Forth
