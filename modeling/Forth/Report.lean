/-
This file runs a program from its text. Each run has a stack and a dictionary
of its own. A program that can not be read is rejected before anything runs,
and any other gives a report. What happens on the way is recorded in a log.
-/

import Forth.Program
import Forth.Evaluator

namespace Forth

open Forth.Parser (Failure Repetition)

/-! ### The log -/

/-- Something that happened in reading or running programs. -/
inductive LogRecord where
  /-- A number of programs are about to be run. -/
  | running (programs : Nat)
  /-- A program was read. -/
  | parsed (words tokens : Nat)
  /-- A program could not be read beyond a position. -/
  | stopped (position words : Nat) (failure : Failure)
  /-- A word was defined. -/
  | stored (name : String)
  /-- A run was halted. -/
  | halted (error : RuntimeError)
  deriving DecidableEq, Repr

/-- A record as a line: its level, the part of the program that it comes from, and what
happened. -/
def LogRecord.line : LogRecord → String
  | .running programs => s!"DEBUG forth_interpreter: running {programs} programs"
  | .parsed words tokens => s!"DEBUG patterns: parsed {words} words into {tokens} tokens"
  | .stopped position words failure =>
    s!"DEBUG patterns: parsing stopped at word {position} of {words}: " ++ failure.message
  | .stored name => "DEBUG execution: stored word " ++ name
  | .halted error => "INFO execution: evaluation halted: " ++ error.message

/-! ### Reports -/

/-- All that one run of a program produced. -/
structure Report where
  text : String
  tokens : List Token
  output : String
  printed : List String
  stack : List Number
  words : List String
  error : Option RuntimeError

namespace Report

/-- Whether a run came to its end or was halted. -/
def status (report : Report) : String :=
  if report.error.isSome then "error" else "done"

/-- The error that halted a run, with its label in red. There may be none. -/
def formatError (report : Report) : String :=
  match report.error with
  | some error => error.diagnostic.render
  | none => ""

/-- The report of an evaluator that has run the given program. -/
def ofEvaluator (text : String) (tokens : List Token) (evaluator : Evaluator) : Report where
  text := text
  tokens := tokens
  output := evaluator.output
  printed := evaluator.workspace.outputs
  stack := evaluator.workspace.stack.values.toOption.getD []
  words := evaluator.workspace.dictionary.names.toOption.getD []
  error := evaluator.error

end Report

/-! ### Running a program -/

/-- Why a program has no report. -/
inductive Rejection where
  /-- It can not be read. -/
  | unreadable (failure : Failure)
  /-- One of its tokens is used in a way that no program that was read contains. -/
  | misused (cause : Misuse)
  deriving DecidableEq, Repr

/-- What running a program gives: a log, and a report unless the program was rejected. -/
structure Run where
  log : List LogRecord
  result : Except Rejection Report

/-- The record of reading a program. A position is the number, counted from one, of the first word
that does not belong to a statement. -/
def readingRecord (words : List Word) (reading : Repetition) : LogRecord :=
  match tokensOfReading reading with
  | .ok tokens => .parsed words.length tokens.length
  | .error failure =>
    .stopped (words.length - reading.remainder.length + 1) words.length failure

/-- The records of a run: the words it defined, and the error that halted it. -/
def evaluationRecords (evaluator : Evaluator) : List LogRecord :=
  evaluator.workspace.definedNames.map .stored ++ evaluator.error.toList.map .halted

/-- Runs a program with a stack and a dictionary of its own and keeps a log. -/
def runWithLog (limit : Int) (text : String) : Run :=
  let words := Text.words text
  let reading := readStatements words
  let record := readingRecord words reading
  match tokensOfReading reading with
  | .error failure => ⟨[record], .error (.unreadable failure)⟩
  | .ok tokens =>
    let (evaluator, answer) := (Evaluator.fresh .empty .empty limit).run tokens
    let log := record :: evaluationRecords evaluator
    match answer with
    | .ok _ => ⟨log, .ok (Report.ofEvaluator text tokens evaluator)⟩
    | .error cause => ⟨log, .error (.misused cause)⟩

/-- Runs a program with a stack and a dictionary of its own. -/
def run (limit : Int) (text : String) : Except Rejection Report :=
  (runWithLog limit text).result

end Forth
