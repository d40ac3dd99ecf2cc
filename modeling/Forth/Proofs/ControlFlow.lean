/-
This file says what a program does whatever its values are. How many values an
operation takes and leaves, whether it prints and whether there are enough values
for it can be foreseen without looking at any of them. Only the arithmetic can not:
a division by zero and a number that is too large depend on the values.

No token makes a choice by a value. So two runs on stacks that have nothing in
common but their height take the same steps, as long as the arithmetic of both
succeeds. The height is the length of an open stack. A closed stack is as long as
an empty one, but it has no height, since it refuses whatever is asked of it.
-/

import Forth.Proofs.Accident
import Forth.Proofs.Decimal
import Forth.Proofs.Lockstep

namespace Forth

/-! ### Operations without their values -/

/-- Whether an error depends on the values of a stack, and not only on how many there are. -/
def RuntimeError.IsArithmetic (error : RuntimeError) : Prop :=
  error = .divisionByZero ∨ error = .numberTooLarge

/-- Whether an operation failed because of its arithmetic. -/
def FailsArithmetic {Outcome : Type} (outcome : Except Fault Outcome) : Prop :=
  ∃ error, RuntimeError.IsArithmetic error ∧ outcome = .error (.halt error)

/-- The number of values on an open stack. A closed stack has no height, not even that of an empty
one. -/
def Stack.height? (stack : Stack) : Option Nat :=
  stack.contents?.map List.length

/-- Stacks have the same height if they have the same length and are both open or both closed. -/
theorem Stack.height?_eq_iff {left right : Stack} :
    left.height? = right.height? ↔
      left.length = right.length ∧ left.isClosed = right.isClosed := by
  obtain ⟨_ | leftValues⟩ := left <;> obtain ⟨_ | rightValues⟩ := right <;>
    simp [height?, length, isClosed]

/-- How many values an operation leaves in the place of those that it takes. -/
def Opcode.yield : Opcode → Nat
  | .pop | .drop => 0
  | .push | .add | .subtract | .multiply | .divide => 1
  | .duplicate | .swap => 2
  | .over => 3

/-- What an operation does on a stack of some height, as far as it can be foreseen: why it fails, or
whether it prints nothing and how high it leaves the stack. -/
def Opcode.foresee (opcode : Opcode) (arguments : List Number) :
    Option Nat → Except Fault (Bool × Option Nat)
  | none => .error (.halt .stackClosed)
  | some height =>
    if height < opcode.arity then
      .error (.halt (if opcode.arity = 1 then .stackEmpty else .notEnoughElements))
    else if opcode = .push ∧ arguments = [] then .error (.misuse .missingArgument)
    else .ok (opcode != .pop, some (height - opcode.arity + opcode.yield))

/-- As much of an effect as can be foreseen. -/
def Effect.shape (effect : Effect) : Bool × Option Nat :=
  (effect.output.isEmpty, some effect.values.length)

theorem Effect.ofResult_shape (result : Option Number) (rest : List Number) :
    FailsArithmetic (ofResult result rest) ∨
      (ofResult result rest).map shape = .ok (true, some (rest.length + 1)) := by
  cases result with
  | none => exact .inl ⟨_, .inr rfl, rfl⟩
  | some value => exact .inr rfl

/-- An operation whose arithmetic does not fail does what was foreseen. -/
theorem Opcode.effect_shape (opcode : Opcode) (arguments values : List Number) :
    FailsArithmetic (opcode.effect arguments values) ∨
      (opcode.effect arguments values).map Effect.shape =
        opcode.foresee arguments (some values.length) := by
  obtain few | enough := Nat.lt_or_ge values.length opcode.arity
  · rw [effect_of_length_lt few, foresee, if_pos few]
    exact .inr rfl
  · match opcode, values with
    | .push, values => cases arguments <;> exact .inr rfl
    | .pop, top :: rest =>
      rw [effect]
      cases written : top.text? with
      | none => exact .inl ⟨_, .inr rfl, rfl⟩
      | some text =>
        refine .inr ?_
        rw [Except.map, Effect.shape, Number.isEmpty_of_text? written]
        rfl
    | .duplicate, top :: rest | .drop, top :: rest => exact .inr rfl
    | .swap, top :: second :: rest | .over, top :: second :: rest => exact .inr rfl
    | .add, top :: second :: rest => exact Effect.ofResult_shape _ rest
    | .subtract, top :: second :: rest => exact Effect.ofResult_shape _ rest
    | .multiply, top :: second :: rest => exact Effect.ofResult_shape _ rest
    | .divide, top :: second :: rest =>
      rw [effect]
      cases second.isZero with
      | true => exact .inl ⟨_, .inl rfl, rfl⟩
      | false => exact Effect.ofResult_shape _ rest

theorem Stack.execute_shape (stack : Stack) (opcode : Opcode) (arguments : List Number) :
    FailsArithmetic (stack.execute opcode arguments) ∨
      (stack.execute opcode arguments).map (fun (text, next) => (text.isEmpty, next.height?)) =
        opcode.foresee arguments stack.height? := by
  match stack with
  | ⟨none⟩ => exact .inr rfl
  | ⟨some values⟩ =>
    have performed : execute ⟨some values⟩ opcode arguments = _ :=
      execute_ofList values opcode arguments
    rw [performed]
    obtain ⟨error, arithmetic, failed⟩ | foreseen := opcode.effect_shape arguments values
    · exact .inl ⟨error, arithmetic, by rw [failed]; rfl⟩
    · refine .inr (Eq.trans ?_ foreseen)
      cases opcode.effect arguments values <;> rfl

/-! ### Runs -/

/-- Whether two workspaces have the same words and look the same as far as no values are seen: the
stacks have the same height, and as many texts were printed. -/
structure Workspace.SameShape (left right : Workspace) : Prop where
  heights : left.stack.height? = right.stack.height?
  dictionaries : left.dictionary = right.dictionary
  printed : left.printed.length = right.printed.length

theorem Workspace.SameShape.afterOperation {left right : Workspace} (same : left.SameShape right)
    {leftText rightText : String} {leftStack rightStack : Stack}
    (texts : leftText.isEmpty = rightText.isEmpty)
    (heights : leftStack.height? = rightStack.height?) :
    (left.afterOperation leftText leftStack).SameShape
      (right.afterOperation rightText rightStack) := by
  refine ⟨heights, same.dictionaries, ?_⟩
  unfold Workspace.afterOperation
  rw [texts]
  cases rightText.isEmpty with
  | true => exact same.printed
  | false => exact congrArg (· + 1) same.printed

theorem Workspace.parallel_sameShape :
    Parallel SameShape RuntimeError.IsArithmetic RuntimeError.IsArithmetic where
  dictionary _ _ same := same.dictionaries
  define _ _ _ _ same := ⟨same.heights, rfl, same.printed⟩
  operate left right opcode arguments same := by
    obtain ⟨error, arithmetic, failed⟩ | leftForeseen := left.stack.execute_shape opcode arguments
    · rw [failed]
      exact .leftExcused error _ arithmetic
    obtain ⟨error, arithmetic, failed⟩ | rightForeseen := right.stack.execute_shape opcode arguments
    · rw [failed]
      exact .rightExcused _ error arithmetic
    have shapes := leftForeseen.trans (same.heights ▸ rightForeseen.symm)
    generalize left.stack.execute opcode arguments = leftOutcome at shapes ⊢
    generalize right.stack.execute opcode arguments = rightOutcome at shapes ⊢
    match leftOutcome, rightOutcome with
    | .error fault, .error other =>
      cases shapes
      exact .failed fault
    | .ok (leftText, leftStack), .ok (rightText, rightStack) =>
      obtain ⟨texts, heights⟩ := Prod.mk.inj (Except.ok.inj shapes)
      exact .performed _ _ _ _ (same.afterOperation texts heights)

/-- Two runs of the same tokens on stacks of the same length, both open or both closed, with nothing
known of the values, end with the same error or none, with the same words, with as many texts printed
and with stacks of the same length, both open or both closed, unless the arithmetic of one of them
fails. -/
theorem run_of_length_eq (limit : Int) (dictionary : Dictionary) (tokens : List Token)
    (left right : Stack) (lengths : left.length = right.length)
    (bothOpenOrClosed : left.isClosed = right.isClosed) :
    let leftRun := (Evaluator.fresh left dictionary limit).run tokens
    let rightRun := (Evaluator.fresh right dictionary limit).run tokens
    (∀ error ∈ [RuntimeError.divisionByZero, .numberTooLarge],
      leftRun.1.error ≠ some error ∧ rightRun.1.error ≠ some error) →
      leftRun.1.error = rightRun.1.error ∧
      leftRun.1.workspace.dictionary = rightRun.1.workspace.dictionary ∧
      leftRun.1.workspace.outputs.length = rightRun.1.workspace.outputs.length ∧
      leftRun.1.workspace.stack.length = rightRun.1.workspace.stack.length ∧
      leftRun.1.workspace.stack.isClosed = rightRun.1.workspace.stack.isClosed ∧
      ∀ cause, leftRun.2 = .error cause ↔ rightRun.2 = .error cause := by
  intro leftRun rightRun noArithmetic
  have start : Workspace.SameShape (.fresh left dictionary) (.fresh right dictionary) :=
    ⟨Stack.height?_eq_iff.2 ⟨lengths, bothOpenOrClosed⟩, rfl, rfl⟩
  have halts (error : RuntimeError) (arithmetic : error.IsArithmetic) :
      leftRun.1.error ≠ some error ∧ rightRun.1.error ≠ some error := by
    refine noArithmetic error ?_
    obtain rfl | rfl := arithmetic <;> decide
  obtain ⟨errors, same, misuse, leftAnswer, rightAnswer⟩ :=
    Evaluator.run_alike Workspace.parallel_sameShape start tokens
      (fun error halted arithmetic => (halts error arithmetic).1 halted)
      (fun error halted arithmetic => (halts error arithmetic).2 halted)
  obtain ⟨sameLength, sameState⟩ := Stack.height?_eq_iff.1 same.heights
  refine ⟨errors, same.dictionaries, ?_, sameLength, sameState, fun cause => ?_⟩
  · simp only [Workspace.outputs, List.length_reverse]
    exact same.printed
  · rw [show leftRun.2 = _ from leftAnswer, show rightRun.2 = _ from rightAnswer]
    cases misuse <;> simp [Evaluator.answer]

/-- A program that prints the second value and then swaps the two on top of the stack, calling itself
each time. -/
def turnForEver : List Token :=
  [.operation .over [], .operation .pop [],
    .store "turn" [.operation .swap [], .search "turn"], .search "turn"]

/-- Whatever the two values are, the calls are nested too deep in the end. -/
theorem run_of_length_eq_turnForEver :
    let leftRun := (Evaluator.fresh (.ofList [.int 3, .int 4]) .empty 5).run turnForEver
    let rightRun := (Evaluator.fresh (.ofList [.int (-20), .int 0]) .empty 5).run turnForEver
    leftRun.1.error = some (.nestingTooDeep "turn") ∧
      rightRun.1.error = some (.nestingTooDeep "turn") ∧
      leftRun.1.workspace.outputs = ["4"] ∧ rightRun.1.workspace.outputs.length = 1 ∧
      leftRun.1.workspace.dictionary = rightRun.1.workspace.dictionary ∧
      rightRun.1.workspace.stack.length = 2 := by
  intro leftRun rightRun
  obtain ⟨words, leftFinished⟩ : ∃ words,
      (Machine.start turnForEver (.fresh (.ofList [.int 3, .int 4]) .empty)).runWithin 5 20 =
        some ⟨⟨.ofList [.int 4, .int 3], words, ["4"], ["turn"]⟩,
          some (.halt (.nestingTooDeep "turn"))⟩ := ⟨_, rfl⟩
  obtain ⟨others, rightFinished⟩ : ∃ words,
      (Machine.start turnForEver (.fresh (.ofList [.int (-20), .int 0]) .empty)).runWithin 5 20 =
        some ⟨⟨.ofList [.int 0, .int (-20)], words, ["0"], ["turn"]⟩,
          some (.halt (.nestingTooDeep "turn"))⟩ := ⟨_, rfl⟩
  have left : leftRun = _ := Evaluator.run_fresh_of_runWithin leftFinished
  have right : rightRun = _ := Evaluator.run_fresh_of_runWithin rightFinished
  have leftError : leftRun.1.error = some (.nestingTooDeep "turn") := by rw [left]; rfl
  have rightError : rightRun.1.error = some (.nestingTooDeep "turn") := by rw [right]; rfl
  have printed : leftRun.1.workspace.outputs = ["4"] := by rw [left]; rfl
  have length : leftRun.1.workspace.stack.length = 2 := by rw [left]; rfl
  have noArithmetic : ∀ error ∈ [RuntimeError.divisionByZero, .numberTooLarge],
      leftRun.1.error ≠ some error ∧ rightRun.1.error ≠ some error := by
    rw [leftError, rightError]
    decide
  obtain ⟨-, dictionaries, texts, lengths, -⟩ :=
    run_of_length_eq 5 .empty turnForEver (.ofList [.int 3, .int 4]) (.ofList [.int (-20), .int 0])
      rfl rfl noArithmetic
  exact ⟨leftError, rightError, printed, texts.symm.trans (congrArg List.length printed),
    dictionaries, lengths.symm.trans length⟩

/-- A closed stack is as long as an empty one, but the closed one refuses a push that the empty one
performs. So the length alone does not tell how a run ends. -/
theorem run_differs_of_closed :
    let leftRun := (Evaluator.fresh .closed .empty defaultLimit).run [.push (.int 1)]
    let rightRun := (Evaluator.fresh .empty .empty defaultLimit).run [.push (.int 1)]
    Stack.closed.length = Stack.empty.length ∧
      (∀ error ∈ [RuntimeError.divisionByZero, .numberTooLarge],
        leftRun.1.error ≠ some error ∧ rightRun.1.error ≠ some error) ∧
      leftRun.1.error = some .stackClosed ∧ rightRun.1.error = none ∧
      leftRun.1.workspace.stack.length = 0 ∧ rightRun.1.workspace.stack.length = 1 := by
  intro leftRun rightRun
  have halted : (Machine.start [.push (.int 1)] (.fresh .closed .empty)).runWithin defaultLimit 5 =
      some ⟨.fresh .closed .empty, some (.halt .stackClosed)⟩ := rfl
  have finished : (Machine.start [.push (.int 1)] (.fresh .empty .empty)).runWithin defaultLimit 5 =
      some ⟨⟨.ofList [.int 1], .empty, [], []⟩, none⟩ := rfl
  have left : leftRun = _ := Evaluator.run_fresh_of_runWithin halted
  have right : rightRun = _ := Evaluator.run_fresh_of_runWithin finished
  have leftError : leftRun.1.error = some .stackClosed := by rw [left]; rfl
  have rightError : rightRun.1.error = none := by rw [right]; rfl
  refine ⟨rfl, ?_, leftError, rightError, by rw [left]; rfl, by rw [right]; rfl⟩
  rw [leftError, rightError]
  decide

end Forth
