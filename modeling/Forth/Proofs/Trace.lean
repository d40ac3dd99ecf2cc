/-
This file says that a run is nothing but the execution of single tokens. Calls
leave no trace of their own: if the references are left out and the bodies of the
words stand in their place, with each body as the dictionary had it at that
moment, what remains is a list of operations and definitions. Executing them one
after the other, without frames and without a limit, succeeds every time and
leads to exactly where the run ends.

A run that is halted ends before a token that has not done anything. The token
fails in the very workspace that the list before it has left.
-/

import Forth.Proofs.DepthLimit
import Forth.Proofs.Occurrence

namespace Forth

/-- Whether a token is a reference to a word. -/
def Token.isReference : Token → Bool
  | .search _ => true
  | .operation _ _ | .store _ _ => false

/-! ### Tokens one after the other -/

namespace Evaluator

/-- Executes tokens one after the other, up to one that fails. -/
def executeAll (evaluator : Evaluator) : List Token → Evaluator × Except Fault Unit
  | [] => (evaluator, .ok ())
  | token :: rest =>
    match evaluator.execute token with
    | (next, .ok ()) => next.executeAll rest
    | (next, .error fault) => (next, .error fault)

theorem executeAll_append {evaluator next : Evaluator} {first : List Token}
    (executed : evaluator.executeAll first = (next, .ok ())) (second : List Token) :
    evaluator.executeAll (first ++ second) = next.executeAll second := by
  induction first generalizing evaluator with
  | nil =>
    cases executed
    rfl
  | cons token rest inductionHypothesis =>
    rw [executeAll] at executed
    rw [List.cons_append, executeAll]
    split at executed
    next => exact inductionHypothesis executed
    next => cases executed

end Evaluator

namespace Machine

variable {limit : Int} {holds : Token → Prop} {machine next later : Machine}

/-- A step executes one token that comes next, or none. -/
theorem Transition.exists_executed (transition : Transition limit machine next)
    (error : Option RuntimeError) :
    ∃ executed : List Token,
      (∀ token ∈ executed, token.isReference = false ∧ ∃ tokens ∈ machine.frames, token ∈ tokens) ∧
      (Evaluator.mk machine.workspace limit error).executeAll executed =
        (⟨next.workspace, limit, error⟩, .ok ()) := by
  cases transition with
  | leave | enter => exact ⟨[], List.forall_mem_nil _, rfl⟩
  | operate opcode arguments rest outer workspace text stack executed =>
    refine ⟨[.operation opcode arguments],
      List.forall_mem_singleton.2 ⟨rfl, _, List.mem_cons_self, List.mem_cons_self⟩, ?_⟩
    simp only [Evaluator.executeAll, Evaluator.execute, Workspace.execute, executed]
    rfl
  | define name body rest outer workspace dictionary stored =>
    refine ⟨[.store name body],
      List.forall_mem_singleton.2 ⟨rfl, _, List.mem_cons_self, List.mem_cons_self⟩, ?_⟩
    simp only [Evaluator.executeAll, Evaluator.execute, Workspace.execute, stored]
    rfl

/-- Whatever a run reaches, executing some tokens one after the other leads there. -/
theorem exists_executeAll_of_reaches (everywhere : Everywhere holds machine)
    (hereditary : Hereditary holds) (error : Option RuntimeError)
    (reaches : Reaches limit machine later) :
    ∃ trace : List Token, (∀ token ∈ trace, token.isReference = false ∧ holds token) ∧
      (Evaluator.mk machine.workspace limit error).executeAll trace =
        (⟨later.workspace, limit, error⟩, .ok ()) := by
  induction reaches with
  | refl => exact ⟨[], List.forall_mem_nil _, rfl⟩
  | tail reaches stepped inductionHypothesis =>
    obtain ⟨trace, direct, leads⟩ := inductionHypothesis
    obtain ⟨executed, pending, leadsOn⟩ :=
      (step_eq_running_iff.1 stepped).exists_executed error
    have frames := (everywhere.of_reaches hereditary reaches).frames
    refine ⟨trace ++ executed, List.forall_mem_append.2 ⟨direct, fun token member => ?_⟩, ?_⟩
    · obtain ⟨noReference, tokens, present, within⟩ := pending token member
      exact ⟨noReference, frames tokens present token within⟩
    · rw [Evaluator.executeAll_append leads, leadsOn]

end Machine

/-! ### Where a run is halted -/

/-- Why a token that is reached at a depth halts a run. It is an operation that fails on the stack as
it is, or a reference to a word that is unknown or nested too deep. -/
inductive Workspace.Halts (workspace : Workspace) (limit depth : Int) :
    Token → RuntimeError → Prop where
  | operate (opcode : Opcode) (arguments : List Number) (error : RuntimeError)
      (failed : workspace.stack.execute opcode arguments = .error (.halt error)) :
      Halts workspace limit depth (.operation opcode arguments) error
  | unknown (name : String) (missing : workspace.dictionary.search name = .ok none) :
      Halts workspace limit depth (.search name) (.unknownWord name)
  | tooDeep (name : String) (body : List Token)
      (found : workspace.dictionary.search name = .ok (some body)) (deep : limit < depth) :
      Halts workspace limit depth (.search name) (.nestingTooDeep name)

/-- What halts a run is the next token, or that the dictionary was closed. -/
theorem Machine.Obstacle.halts_or_closed {limit : Int} {machine : Machine} {error : RuntimeError}
    (obstacle : Obstacle limit machine (.halt error)) :
    (∃ token rest outer, machine.frames = (token :: rest) :: outer ∧
      machine.workspace.Halts limit (outer.length + 1) token error) ∨
      (machine.workspace.dictionary.isClosed = true ∧ error = .dictionaryClosed) := by
  cases obstacle with
  | operate opcode arguments rest outer workspace _ failed =>
    exact .inl ⟨_, rest, outer, rfl, .operate opcode arguments error failed⟩
  | define name body rest outer workspace _ failed =>
    exact .inr (Dictionary.isClosed_of_withVocabulary failed)
  | enter name rest outer workspace _ failed =>
    obtain closed | ⟨missing, rfl⟩ | ⟨body, found, deep, rfl⟩ :=
      Workspace.cases_of_call_eq_error failed
    · exact .inr (Dictionary.isClosed_of_withVocabulary closed)
    · exact .inl ⟨_, rest, outer, rfl, .unknown name missing⟩
    · exact .inl ⟨_, rest, outer, rfl, .tooDeep name body found deep⟩

/-- With an open dictionary, what halts a run is the next token. -/
theorem Machine.Obstacle.exists_halts {limit : Int} {machine : Machine} {error : RuntimeError}
    (obstacle : Obstacle limit machine (.halt error))
    (isOpen : machine.workspace.dictionary.isClosed = false) :
    ∃ token rest outer, machine.frames = (token :: rest) :: outer ∧
      machine.workspace.Halts limit (outer.length + 1) token error :=
  obstacle.halts_or_closed.resolve_right fun ⟨closed, _⟩ => nomatch isOpen.symm.trans closed

/-- A run that is halted by an error stops at an obstacle. -/
theorem Machine.Stops.obstacle_of_error? {limit : Int} {machine : Machine} {final : RunEnd}
    {error : RuntimeError} (stops : Stops limit machine final)
    (halted : final.error? = some error) : Obstacle limit machine (.halt error) := by
  cases stops with
  | finished workspace => cases halted
  | obstructed _ fault obstacle =>
    cases fault with
    | halt other =>
      cases halted
      exact obstacle
    | misuse cause => cases halted

/-- The run of a fresh evaluator stops at a machine with its workspace, and an error that it keeps is
that of an obstacle there. -/
theorem Evaluator.exists_last (limit : Int) (stack : Stack) (dictionary : Dictionary)
    (tokens : List Token) :
    let after := ((fresh stack dictionary limit).run tokens).1
    ∃ last, Machine.Reaches limit (.start tokens (.fresh stack dictionary)) last ∧
      after.workspace = last.workspace ∧
      ∀ error, after.error = some error → Machine.Obstacle limit last (.halt error) := by
  obtain ⟨last, reaches, stops⟩ :=
    Machine.exists_stops limit (.start tokens (.fresh stack dictionary))
  rw [run_fresh]
  exact ⟨last, reaches, stops.workspace_eq, fun error => stops.obstacle_of_error?⟩

/-- An evaluator comes to what it comes to by a run also by executing some operations and definitions
that are written in the program or in the dictionary, one after the other, each of which succeeds. If
an error halts the run, then the token that would be next is also written there, and it is an
operation that fails with this error on the stack at the end, or a reference to a word that is unknown
to the dictionary at the end or is called too deep. -/
theorem Evaluator.exists_executeAll_eq_run (limit : Int) (values : List Number)
    (vocabulary : Vocabulary) (tokens : List Token) :
    let dictionary : Dictionary := ⟨some vocabulary⟩
    let before := fresh (.ofList values) dictionary limit
    let after := (before.run tokens).1
    (∃ trace : List Token,
      (∀ token ∈ trace, token.isReference = false ∧ token.WrittenIn tokens dictionary) ∧
      before.executeAll trace = ({ after with error := none }, .ok ())) ∧
    ∀ error, after.error = some error → ∃ token rest outer,
      Machine.Reaches limit (.start tokens before.workspace)
        ⟨(token :: rest) :: outer, after.workspace⟩ ∧
      token.WrittenIn tokens dictionary ∧
      after.workspace.Halts limit (outer.length + 1) token error := by
  intro dictionary before after
  have everywhere := Machine.everywhere_writtenIn tokens before.workspace
  have hereditary := hereditary_writtenIn tokens dictionary
  obtain ⟨last, reaches, stops⟩ := Machine.exists_stops limit (.start tokens before.workspace)
  have isOpen : last.workspace.IsOpen := Machine.isOpen_of_reaches ⟨rfl, rfl⟩ reaches
  have ended : after = ⟨(Machine.run limit (.start tokens before.workspace)).workspace, limit,
      (Machine.run limit (.start tokens before.workspace)).error?⟩ :=
    congrArg Prod.fst (run_fresh (.ofList values) dictionary limit tokens)
  generalize Machine.run limit (.start tokens before.workspace) = final at stops ended
  rw [stops.workspace_eq] at ended
  clear_value after
  subst ended
  refine ⟨Machine.exists_executeAll_of_reaches everywhere hereditary none reaches,
    fun error halted => ?_⟩
  obtain ⟨token, rest, outer, frames, halts⟩ :=
    (stops.obstacle_of_error? halted).exists_halts isOpen.dictionary
  have written := (everywhere.of_reaches hereditary reaches).frames
  rw [frames] at written
  refine ⟨token, rest, outer, ?_, written _ List.mem_cons_self _ List.mem_cons_self, halts⟩
  rw [← frames]
  exact reaches

end Forth
