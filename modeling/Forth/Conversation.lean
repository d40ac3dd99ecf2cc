/-
This file defines the interactive conversation. Each line is a program of its
own, run with a fresh stack and dictionary. If a program ends within a
definition, the following lines are added to it until it is complete. The
conversation goes on until the user leaves or the input ends.

A conversation is a function from the lines that the user types to the events
that can be observed. `react` says what one line does, and `converse` follows
the lines from the welcome to the farewell.
-/

import Forth.Event
import Forth.Text.Letter

namespace Forth.Conversation

open Text (Colour)

/-! ### Texts -/

/-- What is shown at the beginning. -/
def welcome : List Event :=
  [.printed ("Welcome to the " ++ Colour.brightWhite.paint "Forth evaluator" ++ "."),
    .printed ("Type " ++ Colour.yellow.paint "help" ++ " for available operations, " ++
      Colour.yellow.paint "bye" ++ " to leave.\n"),
    .printed ("Example:" ++ Colour.grey.paint "  : square DUP * ; 1 3 square . .")]

/-- What is shown at the end. -/
def farewell : Event :=
  .printed "\nSee you soon !\n"

/-- What is shown when the user interrupts. -/
def interruption : Event :=
  .printed ("\n" ++ Colour.brightRed.paint "Interrupted:" ++ " input discarded")

/-- Two columns of a table: the second begins at a fixed distance from the left edge. -/
def columns (left right : String) : String :=
  left ++ "\r\t\t" ++ right

/-- An explanation in the right column of the help. -/
def explanation (text : String) : String :=
  Colour.green.paint ("( " ++ text ++ " )")

/-- The help on one operation. -/
def operationHelp (operation : Word × Opcode) : Event :=
  .printed (columns ("  " ++ Colour.yellow.paint operation.1)
    (explanation (Grammar.stackEffect operation.2)))

/-- The help: all operations, and how to define words. -/
def help : List Event :=
  .printed (Colour.grey.paint "OPERATIONS") :: Grammar.operations.map operationHelp ++
    [.printed (Colour.grey.paint "DEFINITIONS"),
      .printed (columns ("  : " ++ Colour.magenta.paint "name" ++ " ... ;")
        (explanation "defines a new word"))]

/-- The words that end a conversation. -/
def exitWords : List Word := ["bye", "exit"]

/-- The words that ask for help. -/
def helpWords : List Word := ["help"]

/-! ### The stack -/

/-- A line in the display of a stack. -/
inductive StackLine where
  | heading
  /-- A value and its position, counted from the top. -/
  | value (position : Nat) (value : Number)
  /-- Values that are left out. -/
  | ellipsis
  deriving DecidableEq

/-- A line as it is shown, unless its value has too many digits. -/
def StackLine.text? : StackLine → Option String
  | .heading => some (Colour.grey.paint "STACK")
  | .ellipsis => some (Colour.grey.paint (columns "  ..." "..."))
  | .value position number => number.text?.map fun text =>
    columns (Colour.grey.paint s!"  {position} :") (Colour.cyan.paint text)

/-- How many values are shown next to each other. -/
def shownValues : Nat := 10

/-- Values with their positions, from the bottom to the top, for values given top first. -/
def positionLines (values : List Number) : List StackLine :=
  (values.zipIdx 1).reverse.map fun (value, position) => .value position value

/-- The lines that show a stack, from the bottom to the top. Of a long stack they show the value
at the bottom, and after an ellipsis those at the top. -/
def stackLines (values : List Number) : List StackLine :=
  let shown := positionLines (values.take shownValues)
  if values.length ≤ shownValues then .heading :: shown
  else .heading :: (positionLines values).take 1 ++ .ellipsis :: shown

/-! ### Reactions -/

/-- How programs are run: the limit on the number of frames, and whether the final stack is
shown. -/
structure Settings where
  limit : Int
  showStack : Bool

/-- What the user does at a prompt. -/
inductive Input where
  | line (text : String)
  | interrupt
  deriving DecidableEq, Repr

/-- What the conversation waits for: a program, or more of the program that was begun. -/
inductive State where
  | ready
  | continuing (text : String)
  deriving DecidableEq, Repr

/-- The prompt that is shown in a state. -/
def State.prompt : State → Prompt
  | .ready => .program
  | .continuing _ => .continuation

/-- What follows on an input. -/
inductive Next where
  | waiting (state : State)
  | leaving
  | broken (breakdown : Breakdown)
  deriving DecidableEq, Repr

/-- What is observed after an input, and what follows. -/
structure Reaction where
  events : List Event
  next : Next

/-- Shows lines up to one whose value has too many digits. -/
def showLines : List StackLine → Reaction
  | [] => ⟨[], .waiting .ready⟩
  | line :: rest =>
    match line.text? with
    | none => ⟨[], .broken .unprintable⟩
    | some text =>
      let others := showLines rest
      ⟨.printed text :: others.events, others.next⟩

/-- Shows a report: what was printed, the error, and the stack. -/
def present (settings : Settings) (report : Report) : Reaction :=
  let output :=
    if report.printed.isEmpty then [] else [.printed ("  = " ++ " ".intercalate report.printed)]
  let errors := report.error.toList.map fun error => .printed error.diagnostic.render
  let stack :=
    if settings.showStack then showLines (stackLines report.stack) else ⟨[], .waiting .ready⟩
  ⟨output ++ errors ++ stack.events, stack.next⟩

/-- Runs a program that may be incomplete. -/
def submit (settings : Settings) (text : String) : Reaction :=
  let run := runWithLog settings.limit text
  let log := run.log.map Event.logged
  match run.result with
  | .ok report =>
    let shown := present settings report
    ⟨log ++ shown.events, shown.next⟩
  | .error (.unreadable failure) =>
    if failure.isIncomplete then ⟨log, .waiting (.continuing text)⟩
    else ⟨log ++ [.printed failure.diagnostic.render], .waiting .ready⟩
  | .error (.misused cause) => ⟨log, .broken (.misused cause)⟩

/-- What an input does. Only a line that begins a program can be a command, and there a line
without a word does nothing. -/
def react (settings : Settings) : State → Input → Reaction
  | _, .interrupt => ⟨[interruption], .waiting .ready⟩
  | .continuing text, .line line => submit settings (text ++ "\n" ++ line)
  | .ready, .line line =>
    let command := Text.smallLetters (Text.trim line)
    if exitWords.contains command then ⟨[], .leaving⟩
    else if helpWords.contains command then ⟨help, .waiting .ready⟩
    else if command.isEmpty then ⟨[], .waiting .ready⟩
    else submit settings line

/-! ### Whole conversations -/

/-- All that can be observed of a conversation: the events, whether it broke down, and the inputs
that were left when it ended. -/
structure Transcript where
  events : List Event
  breakdown : Option Breakdown
  unread : List Input

/-- A transcript after more events. -/
def Transcript.after (events : List Event) (transcript : Transcript) : Transcript :=
  { transcript with events := events ++ transcript.events }

/-- The conversation from a state on. It ends with the farewell when the inputs do. -/
def converseFrom (settings : Settings) (state : State) : List Input → Transcript
  | [] => ⟨[.asked state.prompt, farewell], none, []⟩
  | input :: rest =>
    let reaction := react settings state input
    let events := .asked state.prompt :: reaction.events
    match reaction.next with
    | .waiting state => (converseFrom settings state rest).after events
    | .leaving => ⟨events ++ [farewell], none, rest⟩
    | .broken breakdown => ⟨events, some breakdown, rest⟩

/-- A conversation in which the user gives the listed inputs. -/
def converse (settings : Settings) (inputs : List Input) : Transcript :=
  (converseFrom settings .ready inputs).after welcome

/-! ### Reading by reading -/

/-- What was printed before a prompt, and the prompt. -/
structure Reading where
  output : String
  prompt : Prompt
  deriving DecidableEq, Repr

/-- Divides events at their prompts, after some output that belongs to the first part. What is
printed after the last prompt comes second. -/
def divide (output : String) : List Event → List Reading × String
  | [] => ([], output)
  | .asked prompt :: rest =>
    let divided := divide "" rest
    (⟨output, prompt⟩ :: divided.1, divided.2)
  | event :: rest => divide (output ++ event.output) rest

/-- The readings of a transcript, and what was printed after the last of them. -/
def Transcript.readings (transcript : Transcript) : List Reading × String :=
  divide "" transcript.events

end Forth.Conversation
