/-
This file defines the tokens that a program is made of, how a listing shows
them and when two of them are equal. A token works on the stack, stores a
definition in the dictionary, or refers to a defined word.
-/

import Forth.Number.Text
import Forth.Text.Colour

namespace Forth

open Text (Colour)

/-! ### Operations and tokens -/

/-- The operations on the stack. -/
inductive Opcode where
  | push
  | pop
  | add
  | subtract
  | multiply
  | divide
  | duplicate
  | drop
  | swap
  | over
  deriving DecidableEq, Repr

/-- The name of an operation in a listing. -/
def Opcode.name : Opcode → String
  | .push => "push"
  | .pop => "pop"
  | .add => "add"
  | .subtract => "substract"
  | .multiply => "multiply"
  | .divide => "divide"
  | .duplicate => "duplicate"
  | .drop => "drop"
  | .swap => "swap"
  | .over => "over"

/-- A step of a program. Only a push uses an argument, the first one; a program that was read
from a text gives it exactly one, and no other operation any. -/
inductive Token where
  | operation (opcode : Opcode) (arguments : List Number)
  | store (name : String) (body : List Token)
  | search (name : String)

namespace Token

/-- The token that pushes a number. -/
def push (value : Number) : Token :=
  .operation .push [value]

/-- The body of a definition. No other token has one. -/
def body? : Token → Option (List Token)
  | .store _ body => some body
  | _ => none

/-! ### Listings -/

/-- Why a token can not be shown: it is a push without a number, or its number has too many
digits. -/
inductive Unprintable where
  | missingArgument
  | tooManyDigits
  deriving DecidableEq, Repr

mutual

/-- A token in a coloured listing: numbers, operations and names have a colour each. -/
def listing : Token → Except Unprintable String
  | .operation .push [] => .error .missingArgument
  | .operation .push (value :: _) =>
    match value.text? with
    | some text => .ok (Colour.cyan.paint text)
    | none => .error .tooManyDigits
  | .operation opcode _ => .ok (Colour.yellow.paint opcode.name)
  | .search name => .ok (Colour.magenta.paint name)
  | .store name body => do
    let texts ← listings body
    return ": " ++ Colour.magenta.paint name ++ " " ++ " ".intercalate texts ++ " ;"

/-- The tokens of a body in a coloured listing. -/
def listings : List Token → Except Unprintable (List String)
  | [] => .ok []
  | token :: rest => do
    let text ← token.listing
    let texts ← listings rest
    return text :: texts

end

/-! ### Equality -/

/-- Whether two lists of numbers have the same values. -/
def sameValues : List Number → List Number → Bool
  | [], [] => true
  | left :: lefts, right :: rights => left.sameValue right && sameValues lefts rights
  | _, _ => false

mutual

/-- Whether two tokens have the same structure and the same values. -/
def same : Token → Token → Bool
  | .operation left leftArguments, .operation right rightArguments =>
    left == right && sameValues leftArguments rightArguments
  | .store left leftBody, .store right rightBody => left == right && sameBody leftBody rightBody
  | .search left, .search right => left == right
  | _, _ => false

/-- Whether two bodies have the same tokens in the same order. -/
def sameBody : List Token → List Token → Bool
  | [], [] => true
  | left :: lefts, right :: rights => left.same right && sameBody lefts rights
  | _, _ => false

end

end Token

end Forth
