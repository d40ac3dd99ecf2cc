/-
This file compares two runs step by step. The machines of the two runs stand in
some relation, and each step of both either keeps the relation or ends the
comparison: both runs end and agree, or one of them ends in a way that agrees with
whatever the other may come to. Then the two runs agree at their ends. This is the
only induction over two runs.

It is applied to machines that run the same tokens with the same words and differ
in their stacks and in what they have printed. All that has to be shown of the
stacks is how single operations compare.
-/

import Forth.Proofs.Recursion

namespace Forth

namespace Machine

/-! ### Two runs side by side -/

/-- Whether two machines can be compared further after a step of each. -/
inductive Abreast (related : Machine → Machine → Prop) (agreed : RunEnd → RunEnd → Prop) :
    Progress → Progress → Prop where
  /-- Both runs go on, and the machines are related again. -/
  | running (left right : Machine) (again : related left right) :
      Abreast related agreed (.running left) (.running right)
  /-- Both runs end, and they agree. -/
  | ended (left right : RunEnd) (agree : agreed left right) :
      Abreast related agreed (.ended left) (.ended right)
  /-- The left run ends, and agrees with whatever the right one comes to. -/
  | leftEnded (left : RunEnd) (right : Progress) (agree : ∀ other, agreed left other) :
      Abreast related agreed (.ended left) right
  /-- The right run ends, and agrees with whatever the left one comes to. -/
  | rightEnded (left : Progress) (right : RunEnd) (agree : ∀ other, agreed other right) :
      Abreast related agreed left (.ended right)

/-- If related machines stay abreast, their runs agree. -/
theorem agreed_of_abreast {leftLimit rightLimit : Int} {related : Machine → Machine → Prop}
    {agreed : RunEnd → RunEnd → Prop}
    (abreast : ∀ left right, related left right →
      Abreast related agreed (left.step leftLimit) (right.step rightLimit))
    {left right : Machine} (start : related left right) :
    agreed (left.run leftLimit) (right.run rightLimit) := by
  fun_induction run leftLimit left generalizing right with
  | case1 left final stepped =>
    have both := abreast left right start
    rw [stepped] at both
    generalize rightStep : right.step rightLimit = progress at both
    cases both with
    | ended _ other agree => exact run_of_step_ended rightStep ▸ agree
    | leftEnded _ _ agree => exact agree _
    | rightEnded _ other agree => exact run_of_step_ended rightStep ▸ agree _
  | case2 left next stepped inductionHypothesis =>
    have both := abreast left right start
    rw [stepped] at both
    generalize rightStep : right.step rightLimit = progress at both
    cases both with
    | running _ other again =>
      rw [(step_eq_running_iff.1 rightStep).run_eq]
      exact inductionHypothesis again
    | rightEnded _ other agree => exact run_of_step_ended rightStep ▸ agree _

end Machine

/-! ### The same tokens on different stacks -/

namespace Workspace

/-- What two workspaces make of the same operation. Either they are related again, or both fail
alike, or one of them is halted by an error that excuses it. -/
inductive Compare (related : Workspace → Workspace → Prop)
    (leftExcuse rightExcuse : RuntimeError → Prop) (left right : Workspace) :
    Except Fault (String × Stack) → Except Fault (String × Stack) → Prop where
  | performed (leftText rightText : String) (leftStack rightStack : Stack)
      (again : related (left.afterOperation leftText leftStack)
        (right.afterOperation rightText rightStack)) :
      Compare related leftExcuse rightExcuse left right (.ok (leftText, leftStack))
        (.ok (rightText, rightStack))
  | failed (fault : Fault) :
      Compare related leftExcuse rightExcuse left right (.error fault) (.error fault)
  | leftExcused (error : RuntimeError) (outcome : Except Fault (String × Stack))
      (excuse : leftExcuse error) :
      Compare related leftExcuse rightExcuse left right (.error (.halt error)) outcome
  | rightExcused (outcome : Except Fault (String × Stack)) (error : RuntimeError)
      (excuse : rightExcuse error) :
      Compare related leftExcuse rightExcuse left right outcome (.error (.halt error))

/-- A relation of workspaces that have the same words and differ in nothing that a definition looks
at, and that every operation keeps unless there is an excuse. -/
structure Parallel (related : Workspace → Workspace → Prop)
    (leftExcuse rightExcuse : RuntimeError → Prop) : Prop where
  dictionary : ∀ left right, related left right → left.dictionary = right.dictionary
  define : ∀ left right name dictionary, related left right →
    related (left.afterDefinition name dictionary) (right.afterDefinition name dictionary)
  operate : ∀ left right opcode arguments, related left right →
    Compare related leftExcuse rightExcuse left right
      (left.stack.execute opcode arguments) (right.stack.execute opcode arguments)

end Workspace

/-- Whether two runs end alike, with related workspaces and the same fault or none, unless one of
them was halted by an error that excuses it. -/
def RunEnd.Alike (related : Workspace → Workspace → Prop)
    (leftExcuse rightExcuse : RuntimeError → Prop) (left right : RunEnd) : Prop :=
  (∀ error, left.error? = some error → ¬ leftExcuse error) →
    (∀ error, right.error? = some error → ¬ rightExcuse error) →
    left.fault = right.fault ∧ related left.workspace right.workspace

variable {limit : Int} {related : Workspace → Workspace → Prop}
  {leftExcuse rightExcuse : RuntimeError → Prop}

namespace Machine

/-- Two machines that run the same frames on related workspaces. -/
def SameFrames (related : Workspace → Workspace → Prop) (left right : Machine) : Prop :=
  left.frames = right.frames ∧ related left.workspace right.workspace

/-- Whether two machines can be compared further after a step, as machines that run the same frames. -/
abbrev StaysAbreast (limit : Int) (related : Workspace → Workspace → Prop)
    (leftExcuse rightExcuse : RuntimeError → Prop) (left right : Machine) : Prop :=
  Abreast (SameFrames related) (RunEnd.Alike related leftExcuse rightExcuse) (left.step limit)
    (right.step limit)

variable {left right : Workspace}

theorem abreast_ended (workspaces : related left right) (fault : Option Fault) :
    Abreast (SameFrames related) (RunEnd.Alike related leftExcuse rightExcuse)
      (.ended ⟨left, fault⟩) (.ended ⟨right, fault⟩) :=
  .ended _ _ fun _ _ => ⟨rfl, workspaces⟩

theorem abreast_operate (parallel : Workspace.Parallel related leftExcuse rightExcuse)
    (workspaces : related left right) (opcode : Opcode) (arguments : List Number)
    (rest : List Token) (outer : Frames) :
    StaysAbreast limit related leftExcuse rightExcuse
      ⟨(.operation opcode arguments :: rest) :: outer, left⟩
      ⟨(.operation opcode arguments :: rest) :: outer, right⟩ := by
  have compared := parallel.operate left right opcode arguments workspaces
  generalize leftExecuted : left.stack.execute opcode arguments = leftOutcome at compared
  generalize rightExecuted : right.stack.execute opcode arguments = rightOutcome at compared
  unfold StaysAbreast
  cases compared with
  | performed leftText rightText leftStack rightStack again =>
    rw [(Transition.operate _ _ rest outer _ _ _ leftExecuted).step_eq,
      (Transition.operate _ _ rest outer _ _ _ rightExecuted).step_eq]
    exact .running _ _ ⟨rfl, again⟩
  | failed fault =>
    rw [(Obstacle.operate _ _ rest outer _ _ leftExecuted).step_eq,
      (Obstacle.operate _ _ rest outer _ _ rightExecuted).step_eq]
    exact abreast_ended workspaces fault
  | leftExcused error _ excuse =>
    rw [(Obstacle.operate _ _ rest outer _ _ leftExecuted).step_eq]
    exact .leftEnded _ _ fun _ noExcuse _ => absurd excuse (noExcuse error rfl)
  | rightExcused _ error excuse =>
    rw [(Obstacle.operate _ _ rest outer _ _ rightExecuted).step_eq]
    exact .rightEnded _ _ fun _ _ noExcuse => absurd excuse (noExcuse error rfl)

theorem abreast_define (parallel : Workspace.Parallel related leftExcuse rightExcuse)
    (workspaces : related left right) (name : String) (body rest : List Token) (outer : Frames) :
    StaysAbreast limit related leftExcuse rightExcuse ⟨(.store name body :: rest) :: outer, left⟩
      ⟨(.store name body :: rest) :: outer, right⟩ := by
  have dictionaries := parallel.dictionary left right workspaces
  unfold StaysAbreast
  cases stored : left.dictionary.store name body with
  | error error =>
    rw [(Obstacle.define _ _ rest outer _ _ stored).step_eq,
      (Obstacle.define _ _ rest outer right _ (dictionaries ▸ stored)).step_eq]
    exact abreast_ended workspaces _
  | ok dictionary =>
    rw [(Transition.define _ _ rest outer _ _ stored).step_eq,
      (Transition.define _ _ rest outer right _ (dictionaries ▸ stored)).step_eq]
    exact .running _ _ ⟨rfl, parallel.define _ _ name dictionary workspaces⟩

theorem abreast_enter (parallel : Workspace.Parallel related leftExcuse rightExcuse)
    (workspaces : related left right) (name : String) (rest : List Token) (outer : Frames) :
    StaysAbreast limit related leftExcuse rightExcuse ⟨(.search name :: rest) :: outer, left⟩
      ⟨(.search name :: rest) :: outer, right⟩ := by
  have dictionaries := parallel.dictionary left right workspaces
  have calls : left.call limit name (outer.length + 1) =
      right.call limit name (outer.length + 1) := by
    rw [Workspace.call, Workspace.call, dictionaries]
  unfold StaysAbreast
  cases called : left.call limit name (outer.length + 1) with
  | error error =>
    rw [(Obstacle.enter name rest outer _ _ called).step_eq,
      (Obstacle.enter name rest outer right _ (calls ▸ called)).step_eq]
    exact abreast_ended workspaces _
  | ok body =>
    obtain ⟨found, allowed⟩ := Workspace.call_eq_ok_iff.1 called
    rw [(Transition.enter name body rest outer _ found allowed).step_eq,
      (Transition.enter name body rest outer right (dictionaries ▸ found) allowed).step_eq]
    exact .running _ _ ⟨rfl, workspaces⟩

/-- A step of two machines with the same frames, one case for what there is to run next. -/
theorem SameFrames.abreast (parallel : Workspace.Parallel related leftExcuse rightExcuse)
    {left right : Machine} (same : SameFrames related left right) :
    StaysAbreast limit related leftExcuse rightExcuse left right := by
  obtain ⟨frames, left⟩ := left
  obtain ⟨_, right⟩ := right
  obtain ⟨rfl, workspaces⟩ := same
  match frames with
  | [] => exact abreast_ended workspaces none
  | [] :: outer => exact .running _ _ ⟨rfl, workspaces⟩
  | (.operation opcode arguments :: rest) :: outer =>
    exact abreast_operate parallel workspaces opcode arguments rest outer
  | (.store name body :: rest) :: outer =>
    exact abreast_define parallel workspaces name body rest outer
  | (.search name :: rest) :: outer => exact abreast_enter parallel workspaces name rest outer

/-- The same tokens end alike on related workspaces. -/
theorem run_alike (parallel : Workspace.Parallel related leftExcuse rightExcuse)
    (workspaces : related left right) (tokens : List Token) :
    RunEnd.Alike related leftExcuse rightExcuse ((start tokens left).run limit)
      ((start tokens right).run limit) :=
  agreed_of_abreast (fun _ _ => SameFrames.abreast parallel) ⟨rfl, workspaces⟩

end Machine

/-- Evaluators that had not run anything before, with the same words and related workspaces, end with
the same error or none and with related workspaces. Both of them answer, or neither does. -/
theorem Evaluator.run_alike (parallel : Workspace.Parallel related leftExcuse rightExcuse)
    {left right : Stack} {dictionary : Dictionary}
    (workspaces : related (.fresh left dictionary) (.fresh right dictionary)) (tokens : List Token) :
    let leftRun := (fresh left dictionary limit).run tokens
    let rightRun := (fresh right dictionary limit).run tokens
    (∀ error, leftRun.1.error = some error → ¬ leftExcuse error) →
    (∀ error, rightRun.1.error = some error → ¬ rightExcuse error) →
      leftRun.1.error = rightRun.1.error ∧
      related leftRun.1.workspace rightRun.1.workspace ∧
      ∃ misuse, leftRun.2 = leftRun.1.answer misuse ∧ rightRun.2 = rightRun.1.answer misuse := by
  have alike : RunEnd.Alike related leftExcuse rightExcuse
      ((Machine.start tokens (.fresh left dictionary)).run limit)
      ((Machine.start tokens (.fresh right dictionary)).run limit) :=
    Machine.run_alike parallel workspaces tokens
  rw [run_fresh, run_fresh]
  generalize (Machine.start tokens (.fresh left dictionary)).run limit = leftFinal at alike ⊢
  generalize (Machine.start tokens (.fresh right dictionary)).run limit = rightFinal at alike ⊢
  obtain ⟨leftWorkspace, fault⟩ := leftFinal
  obtain ⟨rightWorkspace, other⟩ := rightFinal
  intro leftRun rightRun noLeftExcuse noRightExcuse
  obtain ⟨rfl, again⟩ := alike noLeftExcuse noRightExcuse
  exact ⟨rfl, again, _, rfl, rfl⟩

end Forth
