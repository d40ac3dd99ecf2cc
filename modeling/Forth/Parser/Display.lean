/-
This file writes the outcome of a parser as one line of text. Texts are quoted,
lists stand in brackets and fixed groups in parentheses, where a group of one
keeps a comma so that it can be told from a value in parentheses.
-/

import Forth.Parser.Basic
import Forth.Text.Quoted

namespace Forth

open Text (quoted)

/-! ### Groups -/

/-- Values with a comma between any two. -/
def commaSeparated (values : List String) : String :=
  ", ".intercalate values

/-- A list of values. -/
def bracketed (values : List String) : String :=
  "[" ++ commaSeparated values ++ "]"

/-- A fixed group of values. -/
def grouped : List String → String
  | [value] => "(" ++ value ++ ",)"
  | values => "(" ++ commaSeparated values ++ ")"

/-- A named value: what it is, and what it is made of. -/
def named (name : String) (parts : List String) : String :=
  name ++ "(" ++ commaSeparated parts ++ ")"

/-- A part of a named value, with its own name. -/
def part (name value : String) : String :=
  name ++ "=" ++ value

/-! ### Tokens -/

/-- A number in full. Numbers that were read from words are never too long to be written. -/
def Number.display (number : Number) : String :=
  number.text?.getD ""

/-- One of a fixed set of values: the set, the value's name in capitals, and its text. -/
def memberDisplay (set text : String) : String :=
  "<" ++ set ++ "." ++ Text.capitals text ++ ": " ++ quoted text ++ ">"

namespace Token

/-- An operation on the dictionary and what it is applied to. -/
def dictionaryDisplay (kind : String) (arguments : List String) : String :=
  named "DictionaryOp" [part "kind" (memberDisplay "DictionaryKind" kind),
    part "args" (grouped arguments)]

mutual

/-- A token in full. -/
def display : Token → String
  | .operation opcode arguments =>
    named "StackOp" [part "opcode" (memberDisplay "Opcode" opcode.name),
      part "args" (grouped (arguments.map Number.display))]
  | .store name body => dictionaryDisplay "store" [quoted name, grouped (displays body)]
  | .search name => dictionaryDisplay "search" [quoted name]

/-- The tokens of a body in full. -/
def displays : List Token → List String
  | [] => []
  | token :: rest => token.display :: displays rest

end

end Token

/-! ### Outcomes -/

namespace Parser

mutual

/-- A match in full. -/
def Match.display : Match → String
  | .nothing => "None"
  | .text content => quoted content
  | .number value => (Number.int value).display
  | .token found => found.display
  | .list members => bracketed (Match.displays members)

/-- The members of a match in full. -/
def Match.displays : List Match → List String
  | [] => []
  | made :: rest => made.display :: Match.displays rest

end

/-- A successful match and the words that are left. -/
def successDisplay (made : Match) (remainder : List Word) : String :=
  named "Success" [made.display, grouped (remainder.map quoted)]

/-- A failure and its offending word. -/
def Failure.display (failure : Failure) : String :=
  named "Failure" [quoted failure.message, (failure.word?.map quoted).getD "None"]

/-- An outcome in one line, unless it is a fault. -/
def Outcome.display : Outcome → Except Fault String
  | .success made remainder => .ok (successDisplay made remainder)
  | .failure reason => .ok reason.display
  | .fault cause => .error cause

end Parser

end Forth
