/-
This file runs programs one after the other. The programs do not affect each
other. The status of the whole batch is zero if every program was read and came
to its end, and one otherwise.
-/

import Forth.Event

namespace Forth.Batch

/-- How programs are run: the limit on the number of frames, and whether the final stack is
shown. -/
structure Settings where
  limit : Int
  showStack : Bool

/-- What a batch, or one program of it, did: the events, and its status unless it broke down. -/
structure Result where
  events : List Event
  status : Except Breakdown Nat

/-- The values of a stack in one line, from the bottom to the top. -/
def stackLine? (values : List Number) : Option String :=
  (values.reverse.mapM Number.text?).map " ".intercalate

/-- The events of a report, and the status of its program. -/
def present (settings : Settings) (report : Report) : Result :=
  let output := Event.printed report.output
  let status := if report.error.isSome then 1 else 0
  if settings.showStack then
    match stackLine? report.stack with
    | some line => ⟨[output, .printed line], .ok status⟩
    | none => ⟨[output], .error .unprintable⟩
  else ⟨[output], .ok status⟩

/-- Runs one program of a batch. -/
def runProgram (settings : Settings) (text : String) : Result :=
  let run := runWithLog settings.limit text
  let log := run.log.map Event.logged
  match run.result with
  | .ok report =>
    let shown := present settings report
    ⟨log ++ shown.events, shown.status⟩
  | .error (.unreadable failure) => ⟨log ++ [.complained failure.diagnostic.render], .ok 1⟩
  | .error (.misused cause) => ⟨log, .error (.misused cause)⟩

/-- Runs programs in order, up to one that breaks down. -/
def runPrograms (settings : Settings) : List String → Result
  | [] => ⟨[], .ok 0⟩
  | text :: rest =>
    let first := runProgram settings text
    match first.status with
    | .error breakdown => ⟨first.events, .error breakdown⟩
    | .ok status =>
      let others := runPrograms settings rest
      ⟨first.events ++ others.events, others.status.map (max status)⟩

end Forth.Batch
