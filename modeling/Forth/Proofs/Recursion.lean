/-
This file describes a run without frames. `evaluate` handles tokens from left to
right and calls itself for a word: the body that the word has at that moment is
evaluated to its end before the next token is looked at. It is a definition of
its own, which knows nothing of the machine.

The main statement is that the machine does the same. Each frame below the
innermost one is what a caller has still to do, and the number of frames is the
depth of the evaluation, however the words are defined anew on the way.
-/

import Forth.Evaluator
import Forth.Proofs.Transition

namespace Forth

/-! ### Recursive evaluation -/

/-- Evaluates tokens at a depth. The first fault ends the evaluation, with the workspace as it
stands. -/
def evaluate (limit depth : Int) (workspace : Workspace) (tokens : List Token) : RunEnd :=
  match tokens with
  | [] => ⟨workspace, none⟩
  | .operation opcode arguments :: rest =>
    match workspace.stack.execute opcode arguments with
    | .error fault => ⟨workspace, some fault⟩
    | .ok (text, stack) => evaluate limit depth (workspace.afterOperation text stack) rest
  | .store name body :: rest =>
    match workspace.dictionary.store name body with
    | .error error => ⟨workspace, some (.halt error)⟩
    | .ok dictionary => evaluate limit depth (workspace.afterDefinition name dictionary) rest
  | .search name :: rest =>
    match workspace.dictionary.search name with
    | .error error => ⟨workspace, some (.halt error)⟩
    | .ok none => ⟨workspace, some (.halt (.unknownWord name))⟩
    | .ok (some body) =>
      if limit < depth then ⟨workspace, some (.halt (.nestingTooDeep name))⟩
      else
        match evaluate limit (depth + 1) workspace body with
        | ⟨workspace, none⟩ => evaluate limit depth workspace rest
        | halted => halted
termination_by ((limit + 1 - depth).toNat, tokens.length)

/-! ### The machine evaluates -/

/-- What a machine does after its innermost frame has been evaluated: it runs the other frames,
unless it was halted. -/
def RunEnd.thenRun (final : RunEnd) (limit : Int) (outer : Frames) : RunEnd :=
  match final.fault with
  | none => (Machine.mk outer final.workspace).run limit
  | some _ => final

/-- The innermost frame is evaluated at a depth that is the number of frames, and the frames below
it are what is done next. -/
theorem run_eq_thenRun (limit depth : Int) (workspace : Workspace) (tokens : List Token)
    (outer : Frames) (same : depth = outer.length + 1) :
    (Machine.mk (tokens :: outer) workspace).run limit =
      (evaluate limit depth workspace tokens).thenRun limit outer := by
  fun_induction evaluate limit depth workspace tokens generalizing outer with
  | case1 depth workspace => exact (Machine.Transition.leave outer workspace).run_eq
  | case2 depth workspace opcode arguments rest fault failed =>
    exact (Machine.Obstacle.operate opcode arguments rest outer workspace fault failed).run_eq
  | case3 depth workspace opcode arguments rest text stack executed restHypothesis =>
    rw [(Machine.Transition.operate _ _ _ outer workspace text stack executed).run_eq]
    exact restHypothesis outer same
  | case4 depth workspace name body rest error failed =>
    exact (Machine.Obstacle.define name body rest outer workspace error failed).run_eq
  | case5 depth workspace name body rest dictionary stored restHypothesis =>
    rw [(Machine.Transition.define _ _ _ outer workspace dictionary stored).run_eq]
    exact restHypothesis outer same
  | case6 depth workspace name rest error searched =>
    refine (Machine.Obstacle.enter name rest outer workspace error ?_).run_eq
    simp only [Workspace.call, searched]
  | case7 depth workspace name rest searched =>
    refine (Machine.Obstacle.enter name rest outer workspace (.unknownWord name) ?_).run_eq
    simp only [Workspace.call, searched]
  | case8 depth workspace name rest body searched tooDeep =>
    refine (Machine.Obstacle.enter name rest outer workspace (.nestingTooDeep name) ?_).run_eq
    simp only [Workspace.call, searched, ← same, if_pos tooDeep]
  | case9 depth workspace name rest body searched allowed next finished bodyHypothesis
      restHypothesis =>
    -- What the caller has still to do is one more frame, and the body is one level deeper.
    rw [(Machine.Transition.enter name body rest outer workspace searched (by omega)).run_eq,
      bodyHypothesis (rest :: outer) (by rw [List.length_cons]; omega), finished]
    exact restHypothesis outer same
  | case10 depth workspace name rest body searched allowed unfinished bodyHypothesis =>
    rw [(Machine.Transition.enter name body rest outer workspace searched (by omega)).run_eq,
      bodyHypothesis (rest :: outer) (by rw [List.length_cons]; omega)]
    generalize evaluate limit (depth + 1) workspace body = final at unfinished
    obtain ⟨next, fault⟩ := final
    cases fault with
    | none => exact absurd rfl (unfinished next)
    | some fault => rfl

/-- A run is an evaluation at depth one. -/
theorem run_start (limit : Int) (tokens : List Token) (workspace : Workspace) :
    (Machine.start tokens workspace).run limit = evaluate limit 1 workspace tokens := by
  rw [Machine.start, run_eq_thenRun limit 1 workspace tokens [] rfl]
  generalize evaluate limit 1 workspace tokens = final
  obtain ⟨next, fault⟩ := final
  cases fault with
  | none => exact Machine.run_nil next
  | some fault => rfl

/-- The error that halted a run. -/
def RunEnd.error? (final : RunEnd) : Option RuntimeError :=
  match final.fault with
  | some (.halt error) => some error
  | _ => none

theorem RunEnd.error?_eq_some_iff {final : RunEnd} {error : RuntimeError} :
    final.error? = some error ↔ final.fault = some (.halt error) := by
  obtain ⟨workspace, fault⟩ := final
  match fault with
  | none | some (.halt _) | some (.misuse _) => simp [error?]

/-- The misuse of a token that broke a run off. -/
def RunEnd.misuse? (final : RunEnd) : Option Misuse :=
  match final.fault with
  | some (.misuse cause) => some cause
  | _ => none

/-- What an evaluator answers after a run: its output, unless a token was misused. -/
def Evaluator.answer (evaluator : Evaluator) (misuse : Option Misuse) : Except Misuse String :=
  match misuse with
  | some cause => .error cause
  | none => .ok evaluator.output

/-- A run that is not halted, and is answered, has come to its end. -/
theorem RunEnd.fault_eq_none {final : RunEnd} {evaluator : Evaluator} {text : String}
    (noError : final.error? = none) (answered : evaluator.answer final.misuse? = .ok text) :
    final.fault = none := by
  obtain ⟨workspace, fault⟩ := final
  match fault with
  | none => rfl
  | some (.halt error) => cases noError
  | some (.misuse cause) => cases answered

/-- What becomes of an evaluator that had not run anything before, and what it answers. -/
theorem Evaluator.run_fresh (stack : Stack) (dictionary : Dictionary) (limit : Int)
    (tokens : List Token) :
    let final := (Machine.start tokens (Workspace.fresh stack dictionary)).run limit
    let evaluator : Evaluator := ⟨final.workspace, limit, final.error?⟩
    (fresh stack dictionary limit).run tokens = (evaluator, evaluator.answer final.misuse?) := by
  intro final
  show (fresh stack dictionary limit).finish final = _
  clear_value final
  obtain ⟨workspace, fault⟩ := final
  match fault with
  | none => rfl
  | some (.halt error) => rfl
  | some (.misuse cause) => rfl

/-- The same for a run whose end was found by counting steps. -/
theorem Evaluator.run_fresh_of_runWithin {stack : Stack} {dictionary : Dictionary} {limit : Int}
    {tokens : List Token} {count : Nat} {final : RunEnd}
    (finished : (Machine.start tokens (.fresh stack dictionary)).runWithin limit count = some final) :
    let evaluator : Evaluator := ⟨final.workspace, limit, final.error?⟩
    (fresh stack dictionary limit).run tokens = (evaluator, evaluator.answer final.misuse?) := by
  rw [run_fresh, Machine.run_of_runWithin finished]

/-- An evaluator computes what the recursive evaluation does: the outputs, the stack, the
dictionary and the error that halted it. It answers with its output, unless a token was misused. -/
theorem run_agrees_with_evaluate (limit : Int) (stack : Stack) (dictionary : Dictionary)
    (tokens : List Token) :
    let final := evaluate limit 1 (Workspace.fresh stack dictionary) tokens
    let run := (Evaluator.fresh stack dictionary limit).run tokens
    run.1.workspace.outputs = final.workspace.outputs ∧
      run.1.workspace.stack = final.workspace.stack ∧
      run.1.workspace.dictionary = final.workspace.dictionary ∧
      run.1.error = final.error? ∧
      run.2 = (match final.misuse? with
        | some cause => .error cause
        | none => .ok run.1.output) := by
  intro final run
  have finished : run = (Evaluator.fresh stack dictionary limit).finish final :=
    congrArg (Evaluator.fresh stack dictionary limit).finish
      (run_start limit tokens (Workspace.fresh stack dictionary))
  rw [finished]
  clear_value final
  obtain ⟨workspace, fault⟩ := final
  match fault with
  | none => exact ⟨rfl, rfl, rfl, rfl, rfl⟩
  | some (.halt error) => exact ⟨rfl, rfl, rfl, rfl, rfl⟩
  | some (.misuse cause) => exact ⟨rfl, rfl, rfl, rfl, rfl⟩

end Forth
