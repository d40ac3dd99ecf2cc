/-
This file says what a program leaves alone. An operation reads and writes no more
values than it takes, and there are always that many when it is performed. So a
program that never finds too few values does the same on a stack that has more of
them at the bottom. It prints the same, defines the same words, meets the same
error or none, and the additional values are still there at the end.
-/

import Forth.Proofs.Accident
import Forth.Proofs.Lockstep

namespace Forth

/-! ### Operations -/

/-- What an operation does, with more values below those that it leaves. -/
def Effect.onTopOf (effect : Effect) (extra : List Number) : Effect :=
  { effect with values := effect.values ++ extra }

theorem Effect.ofResult_append (result : Option Number) (rest extra : List Number) :
    Effect.ofResult result (rest ++ extra) =
      (Effect.ofResult result rest).map fun effect => effect.onTopOf extra := by
  cases result <;> rfl

/-- An operation that has as many values as it takes does not touch what is below them. -/
theorem Opcode.effect_append {opcode : Opcode} {values : List Number}
    (enough : opcode.arity ≤ values.length) (arguments extra : List Number) :
    opcode.effect arguments (values ++ extra) =
      (opcode.effect arguments values).map fun effect => effect.onTopOf extra := by
  match opcode, values with
  | .push, values => cases arguments <;> rfl
  | .pop, top :: rest =>
    rw [List.cons_append, effect, effect]
    cases top.text? <;> rfl
  | .duplicate, top :: rest => rfl
  | .drop, top :: rest => rfl
  | .swap, top :: second :: rest => rfl
  | .over, top :: second :: rest => rfl
  | .add, top :: second :: rest => exact Effect.ofResult_append _ rest extra
  | .subtract, top :: second :: rest => exact Effect.ofResult_append _ rest extra
  | .multiply, top :: second :: rest => exact Effect.ofResult_append _ rest extra
  | .divide, top :: second :: rest =>
    rw [List.cons_append, List.cons_append, effect, effect]
    cases second.isZero with
    | true => rfl
    | false => exact Effect.ofResult_append _ rest extra

/-- Whether an error tells that an operation takes more values than there were. -/
def RuntimeError.IsShortage (error : RuntimeError) : Prop :=
  error = .stackEmpty ∨ error = .notEnoughElements

/-- Either an operation finds too few values, or it does not see what is below those it takes. -/
theorem Stack.execute_append (opcode : Opcode) (arguments values extra : List Number) :
    (∃ error, RuntimeError.IsShortage error ∧
      (ofList values).execute opcode arguments = .error (.halt error)) ∨
    (∃ fault, (ofList values).execute opcode arguments = .error fault ∧
      (ofList (values ++ extra)).execute opcode arguments = .error fault) ∨
    ∃ text left, (ofList values).execute opcode arguments = .ok (text, ofList left) ∧
      (ofList (values ++ extra)).execute opcode arguments = .ok (text, ofList (left ++ extra)) := by
  rw [execute_ofList, execute_ofList]
  obtain few | enough := Nat.lt_or_ge values.length opcode.arity
  · rw [Opcode.effect_of_length_lt few]
    refine .inl ⟨_, ?_, rfl⟩
    split
    · exact .inl rfl
    · exact .inr rfl
  · rw [Opcode.effect_append enough]
    cases opcode.effect arguments values with
    | error fault => exact .inr (.inl ⟨fault, rfl, rfl⟩)
    | ok effect => exact .inr (.inr ⟨effect.output, effect.values, rfl, rfl⟩)

/-! ### Runs -/

/-- Whether two workspaces differ only in that the second stack has more values at the bottom, namely
the given ones. -/
def Workspace.RestsOn (extra : List Number) (upper whole : Workspace) : Prop :=
  ∃ values, upper.stack = .ofList values ∧
    whole = { upper with stack := .ofList (values ++ extra) }

theorem Workspace.parallel_restsOn (extra : List Number) :
    Parallel (RestsOn extra) RuntimeError.IsShortage fun _ => False where
  dictionary := by
    rintro upper _ ⟨values, -, rfl⟩
    rfl
  define := by
    rintro upper _ name dictionary ⟨values, stack, rfl⟩
    exact ⟨values, stack, rfl⟩
  operate := by
    rintro upper _ opcode arguments ⟨values, stack, rfl⟩
    rw [stack]
    obtain ⟨error, shortage, failed⟩ | ⟨fault, failed, same⟩ | ⟨text, left, performed, same⟩ :=
      Stack.execute_append opcode arguments values extra
    · rw [failed]
      exact .leftExcused error _ shortage
    · rw [failed, same]
      exact .failed fault
    · rw [performed, same]
      exact .performed text text _ _ ⟨left, rfl, rfl⟩

/-- A run that does not find too few values is the same run with more values at the bottom of the
stack. It prints the same texts, gives the same answer, ends with the same error or none and with the
same words, and the values at the bottom are not touched. -/
theorem run_append_values (limit : Int) (dictionary : Dictionary) (tokens : List Token)
    (values extra : List Number) :
    let upper := (Evaluator.fresh (.ofList values) dictionary limit).run tokens
    let whole := (Evaluator.fresh (.ofList (values ++ extra)) dictionary limit).run tokens
    upper.1.error ≠ some .stackEmpty → upper.1.error ≠ some .notEnoughElements →
      whole.1.workspace.outputs = upper.1.workspace.outputs ∧
      whole.1.error = upper.1.error ∧
      whole.2 = upper.2 ∧
      whole.1.workspace.dictionary = upper.1.workspace.dictionary ∧
      ∃ left, upper.1.workspace.stack = .ofList left ∧
        whole.1.workspace.stack = .ofList (left ++ extra) := by
  intro upper whole notEmpty enough
  have start : Workspace.RestsOn extra (.fresh (.ofList values) dictionary)
      (.fresh (.ofList (values ++ extra)) dictionary) := ⟨values, rfl, rfl⟩
  obtain ⟨errors, ⟨left, stack, same⟩, misuse, upperAnswer, wholeAnswer⟩ :
      upper.1.error = whole.1.error ∧
      Workspace.RestsOn extra upper.1.workspace whole.1.workspace ∧
      ∃ misuse, upper.2 = upper.1.answer misuse ∧ whole.2 = whole.1.answer misuse := by
    refine Evaluator.run_alike (Workspace.parallel_restsOn extra) start tokens ?_ (fun _ _ => id)
    rintro error halted (rfl | rfl)
    · exact notEmpty halted
    · exact enough halted
  have outputs : whole.1.output = upper.1.output := by
    rw [Evaluator.output, Evaluator.output, same, errors]
    rfl
  refine ⟨by rw [same]; rfl, errors.symm, ?_, by rw [same], left, stack, by rw [same]⟩
  rw [upperAnswer, wholeAnswer]
  unfold Evaluator.answer
  rw [outputs]

/-- A program that squares the value on top of the stack with a word of its own, prints the square
and divides it by zero. -/
def squareAndDivide : List Token :=
  [.store "square" [.operation .duplicate [], .operation .multiply []], .search "square",
    .operation .duplicate [], .operation .pop [], .push (.int 0), .operation .swap [],
    .operation .divide []]

/-- Two values below the one that is squared are still there after the division has failed. -/
theorem run_append_values_squareAndDivide :
    let upper := (Evaluator.fresh (.ofList [.int 3]) .empty defaultLimit).run squareAndDivide
    let whole :=
      (Evaluator.fresh (.ofList [.int 3, .int 8, .int 5]) .empty defaultLimit).run squareAndDivide
    upper.1.error = some .divisionByZero ∧ upper.1.workspace.stack = .ofList [.int 9, .int 0] ∧
      whole.1.error = some .divisionByZero ∧ whole.1.workspace.outputs = ["9"] ∧
      whole.1.workspace.stack = .ofList [.int 9, .int 0, .int 8, .int 5] := by
  intro upper whole
  obtain ⟨words, finished⟩ : ∃ words,
      (Machine.start squareAndDivide (.fresh (.ofList [.int 3]) .empty)).runWithin defaultLimit 20 =
        some ⟨⟨.ofList [.int 9, .int 0], words, ["9"], ["square"]⟩,
          some (.halt .divisionByZero)⟩ := ⟨_, rfl⟩
  obtain ⟨error, stack, printed⟩ : upper.1.error = some .divisionByZero ∧
      upper.1.workspace.stack = .ofList [.int 9, .int 0] ∧
      upper.1.workspace.outputs = ["9"] := by
    rw [show upper = _ from Evaluator.run_fresh_of_runWithin finished]
    exact ⟨rfl, rfl, rfl⟩
  obtain ⟨outputs, errors, -, -, left, upperStack, wholeStack⟩ :=
    run_append_values defaultLimit .empty squareAndDivide [.int 3] [.int 8, .int 5]
      (by rw [error]; decide) (by rw [error]; decide)
  have same : some left = some [.int 9, .int 0] :=
    congrArg Stack.contents? (upperStack.symm.trans stack)
  cases same
  exact ⟨error, stack, errors.trans error, outputs.trans printed, wholeStack⟩

end Forth
