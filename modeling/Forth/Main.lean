/-
This file is the program. It reads the arguments, the environment, the files
and the input, and writes what comes of them. A conversation is held line by
line, so that each answer is seen before the next line is typed.
-/

import Forth.CommandLine.Invocation

namespace Forth.Main

open CommandLine

/-- The variables that settings may be taken from. -/
def settingVariables : List String := ["FORTH_MAX_DEPTH", "FORTH_SHOW_STACK", "FORTH_COLOR"]

/-- The variables that are set. -/
def readEnvironment : IO (List (String × String)) := do
  let mut environment := []
  for name in settingVariables do
    if let some value ← IO.getEnv name then environment := (name, value) :: environment
  return environment

/-- The files that are named by sources and exist. -/
def readFiles (sources : List Source) : IO (List (String × String)) := do
  let mut files := []
  for source in sources do
    if let .file name := source then
      try files := (name, ← IO.FS.readFile name) :: files
      catch _ => pure ()
  return files

/-- The whole input, if some source asks for it. -/
def readInput (sources : List Source) : IO String := do
  if sources.contains .input then (← IO.getStdin).readToEnd else return ""

/-- What the program is invoked with. Arguments that can not be read name no sources. -/
def readInvocation (arguments : List String) : IO Invocation := do
  let sources := ((readArguments .none arguments).map Choices.sources).getD []
  return {
    arguments := arguments
    environment := ← readEnvironment
    files := ← readFiles sources
    input := ← readInput sources
    inColour := ← (← IO.getStdout).isTty }

/-- Writes what comes of an invocation. -/
def write (completion : Completion) : IO UInt32 := do
  IO.print completion.output
  IO.eprint completion.errors
  return UInt32.ofNat completion.exitCode

/-- Writes events as they happen, and says whether all of them could be written. -/
def writeEvents (plan : Plan) (events : List Event) : IO Bool := do
  for event in events do
    unless isWritable plan.coloured event do return false
    IO.print (conversationOutput plan.coloured event)
    IO.eprint (conversationErrors plan.verbose event)
  (← IO.getStdout).flush
  return true

/-- Writes the last events of a conversation. -/
def finish (plan : Plan) (events : List Event) : IO UInt32 := do
  return if ← writeEvents plan events then 0 else UInt32.ofNat brokenCode

/-- Holds a conversation line by line, after some events and from a state on. -/
partial def hold (plan : Plan) (events : List Event) (state : Conversation.State) : IO UInt32 := do
  unless ← writeEvents plan (events ++ [.asked state.prompt]) do
    return UInt32.ofNat brokenCode
  let line ← (← IO.getStdin).getLine
  if line.isEmpty then finish plan [Conversation.farewell]
  else
    let input := .line (((Text.lines line).head?).getD "")
    let reaction := Conversation.react (conversationSettings plan) state input
    match reaction.next with
    | .waiting state => hold plan reaction.events state
    | .leaving => finish plan (reaction.events ++ [Conversation.farewell])
    | .broken _ =>
      discard (writeEvents plan reaction.events)
      return UInt32.ofNat brokenCode

/-- Carries out an invocation. -/
def carryOut (invocation : Invocation) : IO UInt32 := do
  match invocation.plan with
  | .error refusal =>
    IO.eprintln "Usage: forth-evaluator [OPTIONS] [FILES]..."
    write (refused refusal)
  | .ok plan =>
    if plan.programs.isEmpty then hold plan Conversation.welcome .ready
    else write (runBatch plan invocation.inColour)

end Forth.Main

/-- Runs the program. -/
def main (arguments : List String) : IO UInt32 := do
  Forth.Main.carryOut (← Forth.Main.readInvocation arguments)
