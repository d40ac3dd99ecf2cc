/-
This file carries out an invocation of the program and says what comes of it:
what is written to the output and to the errors, and the exit code. It is a
function of the arguments, the environment, the files and the input.
-/

import Forth.Batch
import Forth.CommandLine.Plan
import Forth.Conversation
import Forth.Text.Escape
import Forth.Text.Line

namespace Forth.CommandLine

/-! ### Completions -/

/-- Why an invocation breaks down. -/
inductive Collapse where
  /-- A file can not be looked for under its name. -/
  | unusableName
  /-- A line asks for a title, and there is no window to give it to. -/
  | noWindow
  /-- A program breaks down. -/
  | running (breakdown : Breakdown)
  deriving DecidableEq, Repr

/-- What comes of an invocation. -/
structure Completion where
  exitCode : Nat
  output : String
  errors : String
  collapse : Option Collapse

/-- The exit code of an invocation that is mistaken. -/
def mistakenCode : Nat := 2

/-- The exit code of an invocation that breaks down. -/
def brokenCode : Nat := 1

/-- What a refused invocation comes to. Nothing is run. -/
def refused : Refusal → Completion
  | .mistaken => ⟨mistakenCode, "", "", none⟩
  | .unusableName => ⟨brokenCode, "", "", some .unusableName⟩

/-! ### Batches -/

/-- A text as it is written by a batch, with its colours or without. -/
def batchText (keep : Bool) (text : String) : String :=
  if keep then text else Text.plainOutput text

/-- An event as it is written to the output of a batch. -/
def batchOutput (keep : Bool) (event : Event) : String :=
  batchText keep event.output

/-- An event as it is written to the errors of a batch. -/
def batchErrors (keep verbose : Bool) (event : Event) : String :=
  if verbose && event.errors.isEmpty then event.errorsWithLog
  else batchText keep event.errors

/-- Runs the programs of a plan. The log begins with the number of programs. -/
def runBatch (plan : Plan) (inColour : Bool) : Completion :=
  let result := Batch.runPrograms ⟨plan.limit, plan.showStack.getD false⟩ plan.programs
  let events := .logged (.running plan.programs.length) :: result.events
  let keep := inColour && plan.coloured
  let output := String.join (events.map (batchOutput keep))
  let errors := String.join (events.map (batchErrors keep plan.verbose))
  match result.status with
  | .ok status => ⟨status, output, errors, none⟩
  | .error breakdown => ⟨brokenCode, output, errors, some (.running breakdown)⟩

/-! ### Conversations -/

/-- An event as it is written to the output of a conversation, with its colours or without. A line
is made plain before it is ended. -/
def conversationOutput (keep : Bool) (event : Event) : String :=
  match keep, event with
  | false, .printed line => Text.plainConversation line ++ "\n"
  | false, event => Text.plainConversation event.output
  | true, event => event.output

/-- An event as it is written to the errors of a conversation, where only the log is. -/
def conversationErrors (verbose : Bool) (event : Event) : String :=
  if verbose then event.errorsWithLog else event.errors

/-- Whether an event can be written. Without colours a command that sets the title is not left to
the terminal but carried out, which fails, because there is no window. -/
def isWritable (keep : Bool) (event : Event) : Bool :=
  keep || !Text.asksForTitle event.output

/-- The settings of a planned conversation. The stack is shown unless something else is said. -/
def conversationSettings (plan : Plan) : Conversation.Settings :=
  ⟨plan.limit, plan.showStack.getD true⟩

/-- Holds a conversation with the lines of the input, up to an event that can not be written. -/
def runConversation (plan : Plan) (input : String) : Completion :=
  let inputs := (Text.lines input).map Conversation.Input.line
  let transcript := Conversation.converse (conversationSettings plan) inputs
  let written := transcript.events.takeWhile (isWritable plan.coloured)
  let output := String.join (written.map (conversationOutput plan.coloured))
  let errors := String.join (written.map (conversationErrors plan.verbose))
  let collapse :=
    if written.length < transcript.events.length then some .noWindow
    else transcript.breakdown.map .running
  ⟨if collapse.isSome then brokenCode else 0, output, errors, collapse⟩

/-! ### Invocations -/

/-- Carries out an invocation. -/
def Invocation.complete (invocation : Invocation) : Completion :=
  match invocation.plan with
  | .error refusal => refused refusal
  | .ok plan =>
    if plan.programs.isEmpty then runConversation plan invocation.input
    else runBatch plan invocation.inColour

end Forth.CommandLine
