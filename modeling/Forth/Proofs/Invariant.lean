/-
This file says how a run ends and what holds all the way to its end. A run ends
where no frames are left or where a token can not be executed, in a machine that
it reaches by steps. So what every step keeps holds there as well.

Two things are kept by every step. A property of tokens that passes from each
definition to its body holds of everything that is run and of everything that can
be called, however words are defined anew on the way. And a stack and a dictionary
that are open stay open.
-/

import Forth.Proofs.Resources

namespace Forth

/-! ### Open workspaces -/

/-- Whether neither the stack nor the dictionary was closed. -/
structure Workspace.IsOpen (workspace : Workspace) : Prop where
  stack : workspace.stack.isClosed = false
  dictionary : workspace.dictionary.isClosed = false

theorem Stack.isClosed_of_execute {stack next : Stack} {opcode : Opcode} {arguments : List Number}
    {text : String} (executed : stack.execute opcode arguments = .ok (text, next)) :
    next.isClosed = false := by
  unfold execute at executed
  split at executed
  next => cases executed
  next =>
    split at executed
    next => cases executed; rfl
    next => cases executed

theorem Dictionary.isClosed_of_store {dictionary next : Dictionary} {name : String}
    {body : List Token} (stored : dictionary.store name body = .ok next) :
    next.isClosed = false := by
  obtain ⟨_ | vocabulary⟩ := dictionary <;> cases stored
  rfl

theorem Dictionary.isClosed_of_search {dictionary : Dictionary} {name : String}
    {body? : Option (List Token)} (searched : dictionary.search name = .ok body?) :
    dictionary.isClosed = false := by
  obtain ⟨_ | vocabulary⟩ := dictionary <;> cases searched
  rfl

/-- A dictionary has no errors but that it is closed. -/
theorem Dictionary.isClosed_of_withVocabulary {Result : Type} {dictionary : Dictionary}
    {use : Vocabulary → Result} {error : RuntimeError}
    (failed : dictionary.withVocabulary use = .error error) :
    dictionary.isClosed = true ∧ error = .dictionaryClosed := by
  obtain ⟨_ | vocabulary⟩ := dictionary <;> cases failed
  exact ⟨rfl, rfl⟩

theorem Stack.exists_values_of_isOpen {stack : Stack} (isOpen : stack.isClosed = false) :
    ∃ values, stack.contents? = some values := by
  obtain ⟨_ | values⟩ := stack
  · cases isOpen
  · exact ⟨values, rfl⟩

theorem Dictionary.exists_vocabulary_of_isOpen {dictionary : Dictionary}
    (isOpen : dictionary.isClosed = false) :
    ∃ vocabulary, dictionary.contents? = some vocabulary := by
  obtain ⟨_ | vocabulary⟩ := dictionary
  · cases isOpen
  · exact ⟨vocabulary, rfl⟩

/-- A property of tokens that passes from each definition to the tokens of its body. -/
def Hereditary (holds : Token → Prop) : Prop :=
  ∀ name body, holds (.store name body) → ∀ token ∈ body, holds token

namespace Machine

variable {limit : Int} {holds : Token → Prop} {machine next later : Machine}

/-! ### What every step keeps -/

/-- A property holds of all tokens that are still to be run, and of all bodies that can be called. -/
structure Everywhere (holds : Token → Prop) (machine : Machine) : Prop where
  frames : ∀ tokens ∈ machine.frames, ∀ token ∈ tokens, holds token
  definitions : ∀ definition ∈ machine.workspace.dictionary.definitions,
    ∀ token ∈ definition.body, holds token

theorem Everywhere.of_transition (everywhere : Everywhere holds machine)
    (hereditary : Hereditary holds) (transition : Transition limit machine next) :
    Everywhere holds next := by
  obtain ⟨frames, definitions⟩ := everywhere
  cases transition with
  | leave outer workspace =>
    exact ⟨fun tokens member => frames tokens (List.mem_cons_of_mem _ member), definitions⟩
  | operate opcode arguments rest outer workspace text stack executed =>
    obtain ⟨first, others⟩ := List.forall_mem_cons.1 frames
    exact ⟨List.forall_mem_cons.2 ⟨(List.forall_mem_cons.1 first).2, others⟩, definitions⟩
  | define name body rest outer workspace dictionary stored =>
    obtain ⟨first, others⟩ := List.forall_mem_cons.1 frames
    obtain ⟨storeHolds, restHolds⟩ := List.forall_mem_cons.1 first
    refine ⟨List.forall_mem_cons.2 ⟨restHolds, others⟩, fun definition member => ?_⟩
    obtain rfl | old := Dictionary.mem_definitions_of_store stored member
    · exact hereditary name body storeHolds
    · exact definitions definition old
  | enter name body rest outer workspace found allowed =>
    obtain ⟨first, others⟩ := List.forall_mem_cons.1 frames
    have bodyHolds := definitions _ (Dictionary.mem_definitions_of_search found)
    exact ⟨List.forall_mem_cons.2 ⟨bodyHolds,
      List.forall_mem_cons.2 ⟨(List.forall_mem_cons.1 first).2, others⟩⟩, definitions⟩

theorem isOpen_of_transition (isOpen : machine.workspace.IsOpen)
    (transition : Transition limit machine next) : next.workspace.IsOpen := by
  cases transition with
  | leave | enter => exact isOpen
  | operate opcode arguments rest outer workspace text stack executed =>
    exact ⟨Stack.isClosed_of_execute executed, isOpen.dictionary⟩
  | define name body rest outer workspace dictionary stored =>
    exact ⟨isOpen.stack, Dictionary.isClosed_of_store stored⟩

/-! ### What every run keeps -/

theorem Everywhere.of_reaches (everywhere : Everywhere holds machine)
    (hereditary : Hereditary holds) (reaches : Reaches limit machine later) :
    Everywhere holds later :=
  Machine.of_reaches (fun _ _ holdsNow => holdsNow.of_transition hereditary) everywhere reaches

theorem isOpen_of_reaches (isOpen : machine.workspace.IsOpen)
    (reaches : Reaches limit machine later) : later.workspace.IsOpen :=
  of_reaches (fun _ _ => isOpen_of_transition) isOpen reaches

/-- With no definitions at the beginning, a property has to hold of the tokens only. -/
theorem everywhere_start {tokens : List Token} (tokensHold : ∀ token ∈ tokens, holds token) :
    Everywhere holds (start tokens (Workspace.fresh .empty .empty)) where
  frames := List.forall_mem_singleton.2 tokensHold
  definitions := List.forall_mem_nil _

/-! ### How a run ends -/

/-- Where a run stops, and how it ends there. -/
inductive Stops (limit : Int) : Machine → RunEnd → Prop where
  | finished (workspace : Workspace) : Stops limit ⟨[], workspace⟩ ⟨workspace, none⟩
  | obstructed (machine : Machine) (fault : Fault) (obstacle : Obstacle limit machine fault) :
      Stops limit machine ⟨machine.workspace, some fault⟩

/-- Every run reaches a machine where it stops. -/
theorem exists_stops (limit : Int) (machine : Machine) :
    ∃ last, Reaches limit machine last ∧ Stops limit last (machine.run limit) := by
  fun_induction run limit machine with
  | case1 machine final stepped =>
    refine ⟨machine, .refl, ?_⟩
    obtain ⟨frames, workspace⟩ := machine
    obtain rfl | ⟨next, transition⟩ | ⟨fault, obstacle⟩ :=
      transition_or_obstacle limit ⟨frames, workspace⟩
    · cases stepped
      exact .finished workspace
    · rw [transition.step_eq] at stepped
      cases stepped
    · rw [obstacle.step_eq] at stepped
      cases stepped
      exact .obstructed _ fault obstacle
  | case2 machine next stepped inductionHypothesis =>
    obtain ⟨last, reaches, stops⟩ := inductionHypothesis
    exact ⟨last, .head stepped reaches, stops⟩

end Machine

end Forth
