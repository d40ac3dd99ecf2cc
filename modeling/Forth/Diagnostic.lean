/-
This file defines how errors are told to the user: the kinds of error, the
label that each kind is shown under, and the errors that halt a running
program with the words that explain them.
-/

import Forth.Text.Colour

namespace Forth

open Text (Colour)

/-! ### Kinds of error -/

/-- The kinds of error, from the general one to the special ones. -/
inductive ErrorKind where
  | general
  | unreadable
  | incomplete
  | runtime
  | stack
  deriving DecidableEq, Repr

namespace ErrorKind

/-- Every kind, each after the kinds that it is a special case of. -/
def all : List ErrorKind := [.general, .unreadable, .incomplete, .runtime, .stack]

/-- The kind that a kind is directly a special case of. -/
def parent? : ErrorKind → Option ErrorKind
  | .general => none
  | .unreadable => some .general
  | .incomplete => some .unreadable
  | .runtime => some .general
  | .stack => some .runtime

/-- Whether errors of the first kind are also errors of the second. The hierarchy has three
levels. -/
def isA (special broad : ErrorKind) : Bool :=
  special == broad || special.parent? == some broad ||
    special.parent?.bind parent? == some broad

/-- The label that a kind is shown under. A special kind shares the label of the kind that tells
whether a program could not be read or could not go on. -/
def label : ErrorKind → String
  | .general => "Error"
  | .unreadable => "ParseError"
  | .incomplete => "ParseError"
  | .runtime => "RuntimeError"
  | .stack => "RuntimeError"

end ErrorKind

/-! ### Diagnostics -/

/-- An error as it is told to the user. An error in reading names the offending word, unless the
text ended too early. -/
structure Diagnostic where
  kind : ErrorKind
  message : String
  word : Option String
  deriving DecidableEq, Repr

namespace Diagnostic

/-- A diagnostic in plain text. -/
def text (diagnostic : Diagnostic) : String :=
  diagnostic.kind.label ++ ": " ++ diagnostic.message

/-- A diagnostic with its label in red. -/
def render (diagnostic : Diagnostic) : String :=
  Colour.brightRed.paint (diagnostic.kind.label ++ ":") ++ " " ++ diagnostic.message

end Diagnostic

/-! ### Errors of a running program -/

/-- Why a running program halts. -/
inductive RuntimeError where
  | stackClosed
  | dictionaryClosed
  | stackEmpty
  | notEnoughElements
  | divisionByZero
  | numberTooLarge
  | unknownWord (name : String)
  | nestingTooDeep (name : String)
  deriving DecidableEq, Repr

namespace RuntimeError

/-- The words that explain an error. -/
def message : RuntimeError → String
  | .stackClosed => "The stack is closed."
  | .dictionaryClosed => "The dictionary is closed."
  | .stackEmpty => "The stack is empty."
  | .notEnoughElements => "There are not enough elements in the stack."
  | .divisionByZero => "Division by zero."
  | .numberTooLarge => "Number too large."
  | .unknownWord name => "Unknown word '" ++ name ++ "'"
  | .nestingTooDeep name => "Maximum word nesting depth exceeded in '" ++ name ++ "'."

/-- The errors of an operation on the values of an open stack are a kind of their own. -/
def kind : RuntimeError → ErrorKind
  | .stackEmpty | .notEnoughElements | .divisionByZero | .numberTooLarge => .stack
  | .stackClosed | .dictionaryClosed | .unknownWord _ | .nestingTooDeep _ => .runtime

/-- An error of a running program as it is told to the user. -/
def diagnostic (error : RuntimeError) : Diagnostic :=
  ⟨error.kind, error.message, none⟩

end RuntimeError

end Forth
