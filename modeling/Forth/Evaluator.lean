/-
This file defines evaluators. An evaluator runs one list of tokens after
another on the same stack and dictionary. What they print adds up, and the last
error that halted one of them is kept.
-/

import Forth.Machine

namespace Forth

/-- The limit on the number of frames of a run that does not ask for another one. -/
def defaultLimit : Int := 1000

/-- An evaluator: its workspace, the limit on the number of frames, and the error that last halted
a run. -/
structure Evaluator where
  workspace : Workspace
  limit : Int
  error : Option RuntimeError

namespace Evaluator

/-- An evaluator that has not run anything yet. -/
def fresh (stack : Stack) (dictionary : Dictionary) (limit : Int) : Evaluator :=
  ⟨Workspace.fresh stack dictionary, limit, none⟩

/-- What the runs have printed, and after it the error, if there was one. -/
def output (evaluator : Evaluator) : String :=
  let errors := evaluator.error.toList.map fun error => error.diagnostic.text
  " ".intercalate (evaluator.workspace.outputs ++ errors)

/-- The evaluator after a run that ended as given, and the misuse that broke the run off. -/
def finish (evaluator : Evaluator) (final : RunEnd) : Evaluator × Except Misuse String :=
  match final.fault with
  | none =>
    let next := { evaluator with workspace := final.workspace }
    (next, .ok next.output)
  | some (.halt error) =>
    let next := { evaluator with workspace := final.workspace, error := some error }
    (next, .ok next.output)
  | some (.misuse cause) => ({ evaluator with workspace := final.workspace }, .error cause)

/-- Runs tokens and tells all that has been printed so far. -/
def run (evaluator : Evaluator) (tokens : List Token) : Evaluator × Except Misuse String :=
  evaluator.finish ((Machine.start tokens evaluator.workspace).run evaluator.limit)

/-- Runs tokens in an evaluator of their own, on the same stack and dictionary, and tells what they
print. -/
def evaluate (evaluator : Evaluator) (limit : Int) (tokens : List Token) :
    Evaluator × Except Misuse String :=
  let workspace := evaluator.workspace
  let (inner, answer) := (fresh workspace.stack workspace.dictionary limit).run tokens
  let changed := { workspace with
    stack := inner.workspace.stack
    dictionary := inner.workspace.dictionary }
  ({ evaluator with workspace := changed }, answer)

/-- Executes one token that is not a reference. An error is told, but not kept. -/
def execute (evaluator : Evaluator) (token : Token) : Evaluator × Except Fault Unit :=
  match evaluator.workspace.execute token with
  | .ok workspace => ({ evaluator with workspace := workspace }, .ok ())
  | .error fault => (evaluator, .error fault)

/-- The tokens to run for a reference that is reached at the given depth. -/
def call (evaluator : Evaluator) (name : String) (depth : Int) : Except RuntimeError (List Token) :=
  evaluator.workspace.call evaluator.limit name depth

end Evaluator

end Forth
