/-
This file defines what can be observed of the program as it works: the lines
that it writes, the prompts that it shows, the records that it logs, and how it
ends. Output, errors and the log are told apart by where they are written.
-/

import Forth.Report

namespace Forth

open Text (Colour)

/-! ### Events -/

/-- What is asked for at a prompt: a program, or the rest of one. -/
inductive Prompt where
  | program
  | continuation
  deriving DecidableEq, Repr

/-- A prompt as it is shown. -/
def Prompt.text : Prompt → String
  | .program => Colour.brightWhite.paint ">> "
  | .continuation => Colour.brightWhite.paint ".. "

/-- Something that can be observed. -/
inductive Event where
  /-- A line of output. -/
  | printed (line : String)
  /-- A line about an error, apart from the output. -/
  | complained (line : String)
  /-- A record for the log. -/
  | logged (record : LogRecord)
  /-- A prompt, and with it a request for a line. -/
  | asked (prompt : Prompt)
  deriving DecidableEq, Repr

namespace Event

/-- What an event adds to the output. -/
def output : Event → String
  | .printed line => line ++ "\n"
  | .asked prompt => prompt.text
  | .complained _ | .logged _ => ""

/-- What an event adds to the errors. -/
def errors : Event → String
  | .complained line => line ++ "\n"
  | .printed _ | .logged _ | .asked _ => ""

/-- What an event adds to the errors if the log is written there too. -/
def errorsWithLog : Event → String
  | .logged record => record.line ++ "\n"
  | event => event.errors

end Event

/-! ### Breaking off -/

/-- Why the work is broken off in the middle. -/
inductive Breakdown where
  /-- A number on the final stack has too many digits to be shown. -/
  | unprintable
  /-- A token was misused. -/
  | misused (cause : Misuse)
  deriving DecidableEq, Repr

end Forth
