/-
This file defines parsers and what they do to a list of words. A parser is
built from terminals, which look at one word, by choice, sequence and
repetition. It may refer to rules by number, and rules may refer to each other
and to themselves, so a parser is a finite description even of a language
whose sentences nest.

A parser is applied in two steps. `applyWith` follows the structure of the
parser and leaves each reference to a rule to a given function. `callRule`
ties the knot: it applies the definition of a rule, up to a given number of
calls inside one another. Two calls of one rule on the same words, one inside
the other, repeat for ever. So there are only as many calls inside one another
as there are pairs of a rule and a suffix of the words, and `apply` allows just
that many.
-/

import Forth.Parser.Outcome

namespace Forth

/-! ### Terminals -/

/-- How a terminal explains that it refuses a word. -/
inductive Refusal where
  | unexpected
  | unrecognized
  | invalidName
  deriving DecidableEq, Repr

/-- A parser that reads exactly one word. It describes the words that it accepts. -/
structure Terminal where
  expected : String
  accept : Word → Option Parser.Match
  refusal : Refusal

namespace Terminal

open Forth.Parser (Failure Outcome)

/-- The failure of a terminal that refuses a word. -/
def refuse (terminal : Terminal) (word : Word) : Failure :=
  match terminal.refusal with
  | .unexpected => .unexpected terminal.expected word
  | .unrecognized => .unrecognized word
  | .invalidName => .invalidName word

/-- A terminal reads the first word, if there is one and it accepts it. -/
def apply (terminal : Terminal) : List Word → Outcome
  | [] => .failure (.ended terminal.expected)
  | word :: rest =>
    match terminal.accept word with
    | some made => .success made rest
    | none => .failure (terminal.refuse word)

/-- What a keyword is called in an explanation. -/
def keywordText (text : Word) : String :=
  "'" ++ text ++ "'"

/-- The terminal that accepts one given word only. -/
def keyword (text : Word) : Terminal where
  expected := keywordText text
  accept word := if word == text then some (.text word) else none
  refusal := .unexpected

end Terminal

/-! ### Parsers -/

/-- A parser. -/
inductive Parser where
  /-- Reads one word. -/
  | terminal (terminal : Terminal)
  /-- A stand-in that does not say what it matches. -/
  | undescribed
  /-- A stand-in for a terminal that does not say which words it accepts. -/
  | undescribedWord
  /-- The first of several parsers that matches. If none does, the failure of the last one
  tells why. -/
  | any (first : Parser) (others : List Parser)
  /-- Several parsers one after the other. The matches that are not empty are collected. -/
  | sequence (parts : List Parser)
  /-- A parser as often as it matches and reads something. -/
  | repeated (item : Parser)
  /-- The same, at least once. -/
  | repeatedOnce (item : Parser)
  /-- The same, with failures that speak of the body of a definition. -/
  | body (item : Parser)
  /-- Reads what a parser reads and makes nothing of it. -/
  | discard (item : Parser)
  /-- Reads what a parser reads and makes something else of it. -/
  | transform (item : Parser) (function : Parser.Match → Parser.Match)
  /-- The parser that a rule is defined as. The label is the name of the rule in explanations. -/
  | rule (label : String) (index : Nat)

namespace Parser

/-- The first of several parsers that matches. There must be one. -/
def any? : List Parser → Option Parser
  | [] => none
  | first :: others => some (.any first others)

/-- What the text of a failure calls the end of a body. -/
def bodyEnd : String := "';' to close the definition"

/-- The failure of a body that has no statement. If the offending word is the closing one, the
body is empty. If there is none, the definition goes on after the end of the words. -/
def bodyFailure (failure : Failure) : Failure :=
  if failure.word? = some Failure.closingWord then .emptyBody
  else if failure.word? = none then .ended bodyEnd
  else failure

/-! ### Repetition -/

/-- What comes of repeating a parser: the matches, the words that are left, and the failure that
ended the repetition. -/
structure Repetition where
  members : List Match
  remainder : List Word
  failure : Failure

/-- Repeats a parser until it fails. A match that reads no word ends the repetition as well, and
is not counted. -/
def repeatWith (item : List Word → Outcome) (words : List Word) : Except Fault Repetition :=
  match item words with
  | .fault fault => .error fault
  | .failure failure => .ok ⟨[], words, failure⟩
  | .success made remainder =>
    if remainder.length < words.length then
      match repeatWith item remainder with
      | .error fault => .error fault
      | .ok rest => .ok { rest with members := made :: rest.members }
    else .ok ⟨[], words, .noProgress words.head?⟩
termination_by words.length

/-- A repetition never fails. -/
def Repetition.outcome (repetition : Repetition) : Outcome :=
  .success (.list repetition.members) repetition.remainder

/-- A repetition that has to match at least once fails like its parser. -/
def Repetition.outcomeOnce (repetition : Repetition) : Outcome :=
  if repetition.members.isEmpty then .failure repetition.failure else repetition.outcome

/-- The outcome of a repetition, unless it has none. -/
def repetitionOutcome (finish : Repetition → Outcome) : Except Fault Repetition → Outcome
  | .ok repetition => finish repetition
  | .error fault => .fault fault

/-! ### Applying a parser -/

mutual

/-- Applies a parser to words. References to rules are left to `call`. -/
def applyWith (call : String → Nat → List Word → Outcome) : Parser → List Word → Outcome
  | .terminal reader, words => reader.apply words
  | .undescribed, _ => .fault .undescribed
  | .undescribedWord, [] => .failure (.ended "a word")
  | .undescribedWord, _ :: _ => .fault .undescribed
  | .any first others, words =>
    match applyWith call first words with
    | .failure failure => applyAny call failure others words
    | outcome => outcome
  | .sequence parts, words => applySequence call [] parts words
  | .repeated item, words =>
    repetitionOutcome Repetition.outcome (repeatWith (applyWith call item) words)
  | .repeatedOnce item, words =>
    repetitionOutcome Repetition.outcomeOnce (repeatWith (applyWith call item) words)
  | .body item, words =>
    (repetitionOutcome Repetition.outcomeOnce (repeatWith (applyWith call item) words)).mapFailure
      bodyFailure
  | .discard item, words => (applyWith call item words).mapMatch fun _ => .nothing
  | .transform item function, words => (applyWith call item words).mapMatch function
  | .rule label index, words => call label index words

/-- Applies the remaining alternatives of a choice, the last of which failed as given. -/
def applyAny (call : String → Nat → List Word → Outcome) (last : Failure) :
    List Parser → List Word → Outcome
  | [], _ => .failure last
  | parser :: others, words =>
    match applyWith call parser words with
    | .failure failure => applyAny call failure others words
    | outcome => outcome

/-- Applies the remaining parts of a sequence, the earlier of which made the collected matches,
last first. -/
def applySequence (call : String → Nat → List Word → Outcome) (collected : List Match) :
    List Parser → List Word → Outcome
  | [], words => .success (.list collected.reverse) words
  | part :: parts, words =>
    match applyWith call part words with
    | .success made remainder =>
      applySequence call (if made.isEmpty then collected else made :: collected) parts remainder
    | outcome => outcome

end

/-! ### Rules -/

/-- The definitions of rules, by number. A rule may lack a definition. -/
abbrev Rules := List (Option Parser)

/-- The definition of a rule. -/
def Rules.definition? (rules : Rules) (index : Nat) : Option Parser :=
  rules[index]?.join

/-- Applies a rule, with at most `room` more calls of rules inside this one. -/
def callRule (rules : Rules) (room : Nat) (label : String) (index : Nat) (words : List Word) :
    Outcome :=
  match rules.definition? index, room with
  | none, _ => .fault (.undefinedRule label)
  | some _, 0 => .fault .endless
  | some parser, room + 1 => applyWith (callRule rules room) parser words

/-- Applies a parser, with at most `room` calls of rules inside one another. -/
def applyWithin (rules : Rules) (room : Nat) (parser : Parser) (words : List Word) : Outcome :=
  applyWith (callRule rules room) parser words

/-- How many calls of rules there can be inside one another before one repeats. -/
def sufficientRoom (rules : Rules) (words : List Word) : Nat :=
  rules.length * (words.length + 1)

/-- Applies a parser to words. -/
def apply (rules : Rules) (parser : Parser) (words : List Word) : Outcome :=
  applyWithin rules (sufficientRoom rules words) parser words

end Parser

end Forth
