/-
This file says once what a step of a run can do. A step that goes on leaves an
empty frame, performs an operation, stores a definition or enters a word. A
step that ends the run finds no frames any more, or a token that can not be
executed. What holds along every run is derived from these cases, and nothing
else about a step is needed. The end of a run of which the number of steps is
known can also be computed.
-/

import Forth.Machine
import Mathlib.Logic.Relation

namespace Forth

namespace Workspace

/-- The workspace after an operation that printed a text and left a stack. An empty text is not
recorded. -/
def afterOperation (workspace : Workspace) (text : String) (stack : Stack) : Workspace :=
  { workspace with
    stack := stack
    printed := if text.isEmpty then workspace.printed else text :: workspace.printed }

/-- The workspace after a definition that left a dictionary. -/
def afterDefinition (workspace : Workspace) (name : String) (dictionary : Dictionary) :
    Workspace :=
  { workspace with dictionary := dictionary, defined := name :: workspace.defined }

/-- A call succeeds if the word is defined and the depth is within the limit. -/
theorem call_eq_ok_iff {workspace : Workspace} {limit depth : Int} {name : String}
    {body : List Token} :
    workspace.call limit name depth = .ok body ↔
      workspace.dictionary.search name = .ok (some body) ∧ depth ≤ limit := by
  constructor
  · intro called
    have allowed := depth_le_of_call called
    unfold call at called
    split at called
    next found searched =>
      rw [if_neg (Int.not_lt.2 allowed)] at called
      exact ⟨searched.trans (congrArg _ (congrArg _ (Except.ok.inj called))), allowed⟩
    next => cases called
    next => cases called
  · rintro ⟨searched, allowed⟩
    simp only [call, searched, if_neg (Int.not_lt.2 allowed)]

/-- A call fails because the dictionary is closed, because the word is not defined, or because of the
depth. -/
theorem cases_of_call_eq_error {workspace : Workspace} {limit depth : Int} {name : String}
    {error : RuntimeError} (failed : workspace.call limit name depth = .error error) :
    workspace.dictionary.search name = .error error ∨
      (workspace.dictionary.search name = .ok none ∧ error = .unknownWord name) ∨
      ∃ body, workspace.dictionary.search name = .ok (some body) ∧ limit < depth ∧
        error = .nestingTooDeep name := by
  unfold call at failed
  split at failed
  next body searched =>
    split at failed
    next tooDeep =>
      cases failed
      exact .inr (.inr ⟨body, searched, tooDeep, rfl⟩)
    next => cases failed
  next searched =>
    cases failed
    exact .inr (.inl ⟨searched, rfl⟩)
  next searched =>
    cases failed
    exact .inl searched

end Workspace

namespace Machine

variable {limit : Int}

/-! ### Steps that go on -/

/-- What a step does that does not end the run. -/
inductive Transition (limit : Int) : Machine → Machine → Prop where
  /-- The innermost word is finished. -/
  | leave (outer : Frames) (workspace : Workspace) :
      Transition limit ⟨[] :: outer, workspace⟩ ⟨outer, workspace⟩
  /-- An operation is performed on the stack. -/
  | operate (opcode : Opcode) (arguments : List Number) (rest : List Token) (outer : Frames)
      (workspace : Workspace) (text : String) (stack : Stack)
      (executed : workspace.stack.execute opcode arguments = .ok (text, stack)) :
      Transition limit ⟨(.operation opcode arguments :: rest) :: outer, workspace⟩
        ⟨rest :: outer, workspace.afterOperation text stack⟩
  /-- A definition is stored. -/
  | define (name : String) (body rest : List Token) (outer : Frames) (workspace : Workspace)
      (dictionary : Dictionary) (stored : workspace.dictionary.store name body = .ok dictionary) :
      Transition limit ⟨(.store name body :: rest) :: outer, workspace⟩
        ⟨rest :: outer, workspace.afterDefinition name dictionary⟩
  /-- A word is entered with the body that it has at the moment. -/
  | enter (name : String) (body rest : List Token) (outer : Frames) (workspace : Workspace)
      (found : workspace.dictionary.search name = .ok (some body))
      (allowed : (outer.length : Int) + 1 ≤ limit) :
      Transition limit ⟨(.search name :: rest) :: outer, workspace⟩
        ⟨body :: rest :: outer, workspace⟩

theorem Transition.step_eq {machine next : Machine} (transition : Transition limit machine next) :
    machine.step limit = .running next := by
  cases transition with
  | leave => rfl
  | operate opcode arguments rest outer workspace text stack executed =>
    simp only [step, Workspace.execute, executed]
    rfl
  | define name body rest outer workspace dictionary stored =>
    simp only [step, Workspace.execute, stored]
    rfl
  | enter name body rest outer workspace found allowed =>
    simp only [step, Workspace.call, found, if_neg (Int.not_lt.2 allowed)]

/-! ### Steps that end the run -/

/-- Why a token can not be executed. -/
inductive Obstacle (limit : Int) : Machine → Fault → Prop where
  /-- An operation fails. -/
  | operate (opcode : Opcode) (arguments : List Number) (rest : List Token) (outer : Frames)
      (workspace : Workspace) (fault : Fault)
      (failed : workspace.stack.execute opcode arguments = .error fault) :
      Obstacle limit ⟨(.operation opcode arguments :: rest) :: outer, workspace⟩ fault
  /-- The dictionary is closed. -/
  | define (name : String) (body rest : List Token) (outer : Frames) (workspace : Workspace)
      (error : RuntimeError) (failed : workspace.dictionary.store name body = .error error) :
      Obstacle limit ⟨(.store name body :: rest) :: outer, workspace⟩ (.halt error)
  /-- A word can not be entered. -/
  | enter (name : String) (rest : List Token) (outer : Frames) (workspace : Workspace)
      (error : RuntimeError) (failed : workspace.call limit name (outer.length + 1) = .error error) :
      Obstacle limit ⟨(.search name :: rest) :: outer, workspace⟩ (.halt error)

theorem Obstacle.frames_ne_nil {machine : Machine} {fault : Fault}
    (obstacle : Obstacle limit machine fault) : machine.frames ≠ [] := by
  cases obstacle <;> exact List.cons_ne_nil _ _

/-- A machine with frames either goes on or meets an obstacle. -/
theorem transition_or_obstacle (limit : Int) (machine : Machine) :
    machine.frames = [] ∨ (∃ next, Transition limit machine next) ∨
      ∃ fault, Obstacle limit machine fault := by
  obtain ⟨frames, workspace⟩ := machine
  match frames with
  | [] => exact .inl rfl
  | [] :: outer => exact .inr (.inl ⟨_, .leave outer workspace⟩)
  | (.operation opcode arguments :: rest) :: outer =>
    cases executed : workspace.stack.execute opcode arguments with
    | error fault => exact .inr (.inr ⟨_, .operate opcode arguments rest outer workspace _ executed⟩)
    | ok result =>
      exact .inr (.inl ⟨_, .operate opcode arguments rest outer workspace _ _ executed⟩)
  | (.store name body :: rest) :: outer =>
    cases stored : workspace.dictionary.store name body with
    | error error => exact .inr (.inr ⟨_, .define name body rest outer workspace _ stored⟩)
    | ok dictionary => exact .inr (.inl ⟨_, .define name body rest outer workspace _ stored⟩)
  | (.search name :: rest) :: outer =>
    cases called : workspace.call limit name (outer.length + 1) with
    | error error => exact .inr (.inr ⟨_, .enter name rest outer workspace _ called⟩)
    | ok body =>
      obtain ⟨found, allowed⟩ := Workspace.call_eq_ok_iff.1 called
      exact .inr (.inl ⟨_, .enter name body rest outer workspace found allowed⟩)

theorem Obstacle.step_eq {machine : Machine} {fault : Fault}
    (obstacle : Obstacle limit machine fault) :
    machine.step limit = .ended ⟨machine.workspace, some fault⟩ := by
  cases obstacle with
  | operate opcode arguments rest outer workspace fault failed =>
    simp only [step, Workspace.execute, failed]
  | define name body rest outer workspace error failed =>
    simp only [step, Workspace.execute, failed]
  | enter name rest outer workspace error failed => simp only [step, failed]

/-- A step that does not end the run is one of the transitions. -/
theorem step_eq_running_iff {machine next : Machine} :
    machine.step limit = .running next ↔ Transition limit machine next := by
  refine ⟨fun stepped => ?_, Transition.step_eq⟩
  obtain ⟨frames, workspace⟩ := machine
  rcases transition_or_obstacle limit ⟨frames, workspace⟩ with rfl | ⟨other, transition⟩ |
    ⟨fault, obstacle⟩
  · cases stepped
  · rw [transition.step_eq] at stepped
    cases stepped
    exact transition
  · rw [obstacle.step_eq] at stepped
    cases stepped

/-! ### Runs -/

theorem run_nil (workspace : Workspace) : run limit ⟨[], workspace⟩ = ⟨workspace, none⟩ := by
  rw [run]
  rfl

/-- A run stops where a step ends it. -/
theorem run_of_step_ended {machine : Machine} {final : RunEnd}
    (stepped : machine.step limit = .ended final) : machine.run limit = final := by
  rw [run]
  split
  next other same =>
    rw [stepped] at same
    cases same
    rfl
  next next same =>
    rw [stepped] at same
    cases same

/-- A run goes on from where a step leads. -/
theorem Transition.run_eq {machine next : Machine} (transition : Transition limit machine next) :
    machine.run limit = next.run limit := by
  rw [run]
  split
  next final stepped =>
    rw [transition.step_eq] at stepped
    cases stepped
  next other stepped =>
    rw [transition.step_eq] at stepped
    cases stepped
    rfl

/-- A run stops at an obstacle and leaves the workspace as it is. -/
theorem Obstacle.run_eq {machine : Machine} {fault : Fault}
    (obstacle : Obstacle limit machine fault) :
    machine.run limit = ⟨machine.workspace, some fault⟩ :=
  run_of_step_ended obstacle.step_eq

/-- How a run ends, if a number of steps is enough for it. -/
def runWithin (limit : Int) : Nat → Machine → Option RunEnd
  | 0, _ => none
  | count + 1, machine =>
    match machine.step limit with
    | .ended final => some final
    | .running next => runWithin limit count next

theorem run_of_runWithin {count : Nat} {machine : Machine} {final : RunEnd}
    (finished : machine.runWithin limit count = some final) : machine.run limit = final := by
  fun_induction runWithin limit count machine with
  | case1 => cases finished
  | case2 count machine other stepped =>
    cases finished
    exact run_of_step_ended stepped
  | case3 count machine next stepped inductionHypothesis =>
    rw [(step_eq_running_iff.1 stepped).run_eq]
    exact inductionHypothesis finished

end Machine

end Forth
