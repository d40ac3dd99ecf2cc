/-
This file defines the language: how numbers, operations and names are spelled,
and how statements are built from them. A program is a list of statements. A
statement is an operation, a number, a reference to a word, or a definition,
which is a colon, a name, one or more statements and a semicolon.

  program    ::= statement*
  statement  ::= operation | number | name | definition
  definition ::= ':' name statement+ ';'

The alternatives of a statement are tried in this order, so a name that is
spelled like an operation never refers to a word, and a word that fits nothing
else is reported as the beginning of a definition that it is not.
-/

import Forth.Parser.Basic

namespace Forth.Grammar

open Forth.Parser (Match Failure Rules)

/-! ### Operations -/

/-- The words for the operations, in capitals, in the order in which they are explained. -/
def operations : List (Word × Opcode) :=
  [("+", .add), ("-", .subtract), ("*", .multiply), ("/", .divide), ("DUP", .duplicate),
    ("DROP", .drop), ("SWAP", .swap), ("OVER", .over), (".", .pop)]

/-- The operation that a word stands for, in capitals or in small letters. -/
def operation? (word : Word) : Option Opcode :=
  operations.lookup (Text.capitals word)

/-- What an operation does to the values on top of the stack: the ones it takes, top first, and
the ones it leaves. -/
def stackEffect : Opcode → String
  | .push => "-- a"
  | .add => "a b -- b+a"
  | .subtract => "a b -- b-a"
  | .multiply => "a b -- b*a"
  | .divide => "a b -- b/a"
  | .duplicate => "a -- a a"
  | .drop => "a --"
  | .swap => "a b -- b a"
  | .over => "a b -- a b a"
  | .pop => "a --  , print a"

/-! ### Names -/

/-- A name begins with a letter or an underscore and goes on with letters, digits and
underscores. -/
def isName (word : Word) : Bool :=
  match word.toList with
  | [] => false
  | first :: rest => Text.isNameStart first && rest.all Text.isNamePart

/-! ### Terminals -/

/-- A number is read as the token that pushes it. -/
def number : Terminal where
  expected := "a number"
  accept word := (Number.readInt? word).map fun value => .token (.push (.int value))
  refusal := .unexpected

/-- The word for an operation is read as the token that performs it. -/
def operation : Terminal where
  expected := "an operation"
  accept word := (operation? word).map fun opcode => .token (.operation opcode [])
  refusal := .unexpected

/-- A name is read as it stands. -/
def name : Terminal where
  expected := "a word name"
  accept word := if isName word then some (.text word) else none
  refusal := .invalidName

/-- The colon that opens a definition. It is the last thing that a statement may begin with, so
a word that is refused here is not recognized at all. -/
def definitionStart : Terminal :=
  { Terminal.keyword ":" with refusal := .unrecognized }

/-- The semicolon that closes a definition. -/
def definitionEnd : Terminal :=
  Terminal.keyword Failure.closingWord

/-! ### Rules -/

/-- A reference to the word of the given name. -/
def referTo : Match → Match
  | .text name => .token (.search name)
  | made => made

/-- The definition that a name and a list of statements make up. -/
def define : Match → Match
  | .list [.text name, body] => .token (.store name body.tokens)
  | made => made

/-- An operation or a number. -/
def stackOperation : Parser :=
  .any (.terminal operation) [.terminal number]

/-- A reference to a word. -/
def reference : Parser :=
  .transform (.terminal name) referTo

/-- A definition. Its body consists of statements, so this rule refers to itself. -/
def definition : Parser :=
  .rule "definition" 0

/-- A reference to a word or the definition of one. -/
def dictionaryOperation : Parser :=
  .any reference [definition]

/-- A statement. -/
def statement : Parser :=
  .any stackOperation [dictionaryOperation]

/-- The parts of a definition. -/
def definitionParts : Parser :=
  .transform
    (.sequence [.discard (.terminal definitionStart), .terminal name, .body statement,
      .discard (.terminal definitionEnd)])
    define

/-- A program. -/
def program : Parser :=
  .repeated statement

/-- The rules of the language. -/
def rules : Rules :=
  [some definitionParts]

end Forth.Grammar
