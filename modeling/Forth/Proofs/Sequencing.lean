/-
This file says that running is compositional. Tokens that are put together run one
after the other: if the first of them come to their end, the others run from the
workspace that they leave, and otherwise the others are not run at all. A program
may be cut anywhere outside of a definition. No frame, no text and no error of one
part is seen by the next in any other way than through the workspace.

In the recursive evaluation this is a matter of single tokens. A token and what
follows it are evaluated one after the other, whatever words the token calls.
-/

import Forth.Proofs.Recursion

namespace Forth

/-! ### One after the other -/

/-- Goes on from the workspace at the end of a run, unless a fault ended it. -/
def RunEnd.andThen (final : RunEnd) (next : Workspace → RunEnd) : RunEnd :=
  match final.fault with
  | none => next final.workspace
  | some _ => final

@[simp]
theorem RunEnd.andThen_finished (workspace : Workspace) (next : Workspace → RunEnd) :
    (RunEnd.mk workspace none).andThen next = next workspace :=
  rfl

theorem RunEnd.andThen_assoc (final : RunEnd) (next last : Workspace → RunEnd) :
    (final.andThen next).andThen last =
      final.andThen fun workspace => (next workspace).andThen last := by
  obtain ⟨workspace, fault⟩ := final
  cases fault <;> rfl

/-- A token is evaluated to its end before the tokens behind it are looked at. -/
theorem evaluate_cons (limit depth : Int) (workspace : Workspace) (token : Token)
    (rest : List Token) :
    evaluate limit depth workspace (token :: rest) =
      (evaluate limit depth workspace [token]).andThen fun next =>
        evaluate limit depth next rest := by
  cases token with
  | operation opcode arguments =>
    rw [evaluate, evaluate]
    cases workspace.stack.execute opcode arguments with
    | error fault => rfl
    | ok result => simp only [evaluate, RunEnd.andThen_finished]
  | store name body =>
    rw [evaluate, evaluate]
    cases workspace.dictionary.store name body with
    | error error => rfl
    | ok dictionary => simp only [evaluate, RunEnd.andThen_finished]
  | search name =>
    rw [evaluate, evaluate]
    cases workspace.dictionary.search name with
    | error error => rfl
    | ok found =>
      cases found with
      | none => rfl
      | some body =>
        by_cases tooDeep : limit < depth
        · simp only [if_pos tooDeep, RunEnd.andThen]
        · simp only [if_neg tooDeep]
          obtain ⟨next, fault⟩ := evaluate limit (depth + 1) workspace body
          cases fault with
          | none => simp only [evaluate, RunEnd.andThen_finished]
          | some fault => rfl

/-- Tokens that are put together are evaluated one after the other. -/
theorem evaluate_append (limit depth : Int) (workspace : Workspace) (first second : List Token) :
    evaluate limit depth workspace (first ++ second) =
      (evaluate limit depth workspace first).andThen fun next =>
        evaluate limit depth next second := by
  induction first generalizing workspace with
  | nil => simp only [List.nil_append, evaluate, RunEnd.andThen_finished]
  | cons token rest inductionHypothesis =>
    -- The workspace in which the rest is evaluated is whatever the first token leaves.
    rw [List.cons_append, evaluate_cons, evaluate_cons _ _ _ token rest, RunEnd.andThen_assoc]
    simp only [inductionHypothesis]

/-- A run of tokens that are put together is a run of the first and then one of the others. -/
theorem Machine.run_start_append (limit : Int) (workspace : Workspace)
    (first second : List Token) :
    (start (first ++ second) workspace).run limit =
      ((start first workspace).run limit).andThen fun next => (start second next).run limit := by
  simp only [run_start, evaluate_append]

/-! ### Evaluators that go on -/

/-- What an evaluator becomes at the end of a run does not depend on the workspace before it. -/
theorem Evaluator.finish_mk (before workspace : Workspace) (limit : Int)
    (error : Option RuntimeError) (final : RunEnd) :
    (Evaluator.mk before limit error).finish final =
      (Evaluator.mk workspace limit error).finish final := by
  obtain ⟨left, fault⟩ := final
  match fault with
  | none => rfl
  | some (.halt halted) => rfl
  | some (.misuse cause) => rfl

/-- An evaluator that has run tokens to their end and then runs others is, with its answer, the same
as one that runs both put together. If the first tokens do not come to their end, because an error
halts them or a token is misused, it is the same whether others are put behind them or not. -/
theorem Evaluator.run_append_eq (limit : Int) (stack : Stack) (dictionary : Dictionary)
    (first second : List Token) :
    let alone := (fresh stack dictionary limit).run first
    let whole := (fresh stack dictionary limit).run (first ++ second)
    (alone.1.error = none → (∃ text, alone.2 = .ok text) → whole = alone.1.run second) ∧
      (∀ error, alone.1.error = some error → whole = alone) ∧
      ∀ cause, alone.2 = .error cause → whole = alone := by
  intro alone whole
  have together : whole = (fresh stack dictionary limit).finish
      (((Machine.start first (.fresh stack dictionary)).run limit).andThen fun next =>
        (Machine.start second next).run limit) :=
    congrArg (fresh stack dictionary limit).finish
      (Machine.run_start_append limit (.fresh stack dictionary) first second)
  have separate : alone = (fresh stack dictionary limit).finish
      ((Machine.start first (.fresh stack dictionary)).run limit) := rfl
  rw [together]
  clear_value alone
  generalize (Machine.start first (.fresh stack dictionary)).run limit = final at separate ⊢
  obtain ⟨workspace, fault⟩ := final
  match fault with
  | none =>
    cases separate
    exact ⟨fun _ _ => finish_mk _ workspace limit none _, nofun, nofun⟩
  | some (.halt error) =>
    cases separate
    exact ⟨nofun, fun _ _ => rfl, fun _ _ => rfl⟩
  | some (.misuse cause) =>
    cases separate
    exact ⟨fun _ ⟨_, answered⟩ => (nomatch answered), fun _ _ => rfl, fun _ _ => rfl⟩

/-- A program that defines a word and calls it. -/
def defineTwice : List Token :=
  [.store "twice" [.operation .duplicate [], .operation .add []], .push (.int 3), .search "twice"]

/-- A program that calls a word of another, prints a value and looks for one more. -/
def printTwice : List Token :=
  [.search "twice", .operation .pop [], .operation .pop []]

/-- The second program finds the word and the value that the first has left, and when it is halted
nothing that stands behind it is run. -/
theorem Evaluator.run_append_eq_twice :
    let run := (fresh .empty .empty defaultLimit).run
    (run defineTwice).1.error = none ∧
      run (defineTwice ++ printTwice) = (run defineTwice).1.run printTwice ∧
      (run (defineTwice ++ printTwice)).1.error = some .stackEmpty ∧
      (run (defineTwice ++ printTwice)).1.workspace.outputs = ["12"] ∧
      run ((defineTwice ++ printTwice) ++ defineTwice) = run (defineTwice ++ printTwice) := by
  intro run
  obtain ⟨words, finished⟩ : ∃ words,
      (Machine.start defineTwice (.fresh .empty .empty)).runWithin defaultLimit 20 =
        some ⟨⟨.ofList [.int 6], words, [], ["twice"]⟩, none⟩ := ⟨_, rfl⟩
  obtain ⟨others, halted⟩ : ∃ others,
      (Machine.start (defineTwice ++ printTwice) (.fresh .empty .empty)).runWithin defaultLimit 20 =
        some ⟨⟨.ofList [], others, ["12"], ["twice"]⟩, some (.halt .stackEmpty)⟩ := ⟨_, rfl⟩
  have first : run defineTwice = _ := run_fresh_of_runWithin finished
  have both : run (defineTwice ++ printTwice) = _ := run_fresh_of_runWithin halted
  have notHalted : (run defineTwice).1.error = none := by rw [first]; rfl
  have answered : ∃ text, (run defineTwice).2 = .ok text := by rw [first]; exact ⟨_, rfl⟩
  have error : (run (defineTwice ++ printTwice)).1.error = some .stackEmpty := by rw [both]; rfl
  exact ⟨notHalted,
    (run_append_eq defaultLimit .empty .empty defineTwice printTwice).1 notHalted answered, error,
    by rw [both]; rfl,
    (run_append_eq defaultLimit .empty .empty (defineTwice ++ printTwice) defineTwice).2.1 _ error⟩

end Forth
