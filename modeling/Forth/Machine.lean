/-
This file runs tokens. Tokens are executed from left to right. A reference to a
word is looked up when it is reached, and the tokens that the word has at that
moment run in its place before anything that follows. What is still to be run
is a list of frames: the rest of the innermost word, then the rest of the word
that called it, down to the rest of the program.

A word may call itself, so what ends a run is the limit on the number of
frames. Each step takes a token from the innermost frame, or drops it when it
is empty, and a step that adds a frame has taken a token from the one below.
With a bounded number of frames that can not go on for ever, however long the
bodies of the words are, and `run` is defined by recursion on exactly this.
-/

import Forth.Stack
import Forth.Dictionary

namespace Forth

/-! ### What a run changes -/

/-- What a running program can change: the stack, the dictionary, the texts it has printed and the
names of the words it has defined. Both records are kept with the latest entry first. -/
structure Workspace where
  stack : Stack
  dictionary : Dictionary
  printed : List String
  defined : List String

namespace Workspace

/-- A workspace in which nothing has been printed or defined. -/
def fresh (stack : Stack) (dictionary : Dictionary) : Workspace :=
  ⟨stack, dictionary, [], []⟩

/-- The printed texts, from the first to the last. -/
def outputs (workspace : Workspace) : List String :=
  workspace.printed.reverse

/-- The names of the words that were defined, from the first to the last. A name occurs as often as
it was defined. -/
def definedNames (workspace : Workspace) : List String :=
  workspace.defined.reverse

/-- Executes a token that is not a reference. An operation may print a text, and no text is
recorded when it prints none. A definition is stored. -/
def execute (workspace : Workspace) : Token → Except Fault Workspace
  | .operation opcode arguments =>
    match workspace.stack.execute opcode arguments with
    | .ok (text, stack) =>
      .ok { workspace with
        stack := stack
        printed := if text.isEmpty then workspace.printed else text :: workspace.printed }
    | .error fault => .error fault
  | .store name body =>
    match workspace.dictionary.store name body with
    | .ok dictionary =>
      .ok { workspace with dictionary := dictionary, defined := name :: workspace.defined }
    | .error error => .error (.halt error)
  | .search _ => .error (.misuse .noBody)

/-- The tokens to run for a reference that is reached at the given depth. The depth matters only
for words that are defined. -/
def call (workspace : Workspace) (limit : Int) (name : String) (depth : Int) :
    Except RuntimeError (List Token) :=
  match workspace.dictionary.search name with
  | .ok (some body) => if limit < depth then .error (.nestingTooDeep name) else .ok body
  | .ok none => .error (.unknownWord name)
  | .error error => .error error

end Workspace

/-! ### Steps -/

/-- The tokens that are still to be run, innermost frame first. -/
abbrev Frames := List (List Token)

/-- A run in progress. -/
structure Machine where
  frames : Frames
  workspace : Workspace

/-- How a run ends: with the workspace as it stands then, and with the fault that stopped it, if
any. -/
structure RunEnd where
  workspace : Workspace
  fault : Option Fault

/-- What a step leads to. -/
inductive Progress where
  | running (machine : Machine)
  | ended (final : RunEnd)

namespace Machine

/-- A run of tokens that is about to begin. -/
def start (tokens : List Token) (workspace : Workspace) : Machine :=
  ⟨[tokens], workspace⟩

/-- One step of a run. The depth of a call is the number of frames at that moment. -/
def step (limit : Int) (machine : Machine) : Progress :=
  match machine.frames with
  | [] => .ended ⟨machine.workspace, none⟩
  | [] :: outer => .running ⟨outer, machine.workspace⟩
  | (.search name :: rest) :: outer =>
    match machine.workspace.call limit name (outer.length + 1) with
    | .ok body => .running ⟨body :: rest :: outer, machine.workspace⟩
    | .error error => .ended ⟨machine.workspace, some (.halt error)⟩
  | (token :: rest) :: outer =>
    match machine.workspace.execute token with
    | .ok workspace => .running ⟨rest :: outer, workspace⟩
    | .error fault => .ended ⟨machine.workspace, some fault⟩

end Machine

/-! ### Why a run ends -/

/-- How one step can change the frames, under a limit on their number: it drops an empty frame,
takes a token, or takes a token and adds a frame. -/
inductive Frames.Follows (limit : Int) : Frames → Frames → Prop where
  | leave (outer : Frames) : Follows limit outer ([] :: outer)
  | take (token : Token) (rest : List Token) (outer : Frames) :
      Follows limit (rest :: outer) ((token :: rest) :: outer)
  | enter (token : Token) (body rest : List Token) (outer : Frames)
      (allowed : (outer.length : Int) + 1 ≤ limit) :
      Follows limit (body :: rest :: outer) ((token :: rest) :: outer)

namespace Frames

/-- If frames can be followed only finitely often, then so can they with another frame inside. The
induction is on how many more frames the limit allows, and then on the tokens of the new frame. -/
theorem follows_accessible_cons (limit : Int) (room : Nat) :
    ∀ outer : Frames, limit ≤ outer.length + room → Acc (Follows limit) outer →
      ∀ tokens, Acc (Follows limit) (tokens :: outer) := by
  induction room with
  | zero =>
    intro outer bounded accessible tokens
    induction tokens with
    | nil => exact ⟨_, fun _ follows => by cases follows; exact accessible⟩
    | cons token rest inductionHypothesis =>
      refine ⟨_, fun next follows => ?_⟩
      cases follows with
      | take => exact inductionHypothesis
      | enter _ body _ _ allowed => omega
  | succ room roomHypothesis =>
    intro outer bounded accessible tokens
    induction tokens with
    | nil => exact ⟨_, fun _ follows => by cases follows; exact accessible⟩
    | cons token rest inductionHypothesis =>
      refine ⟨_, fun next follows => ?_⟩
      cases follows with
      | take => exact inductionHypothesis
      | enter _ body _ _ allowed =>
        exact roomHypothesis (rest :: outer) (by rw [List.length_cons]; omega)
          inductionHypothesis body

/-- No frames can be followed for ever. -/
theorem follows_wellFounded (limit : Int) : WellFounded (Follows limit) := by
  refine ⟨fun frames => ?_⟩
  induction frames with
  | nil => exact ⟨_, nofun⟩
  | cons tokens outer inductionHypothesis =>
    exact follows_accessible_cons limit limit.toNat outer (by omega) inductionHypothesis tokens

/-- Frames with the limit that makes following them end. -/
structure Bounded (limit : Int) where
  frames : Frames

instance (limit : Int) : WellFoundedRelation (Bounded limit) where
  rel := InvImage (Follows limit) Bounded.frames
  wf := InvImage.wf _ (follows_wellFounded limit)

end Frames

namespace Workspace

/-- A call that succeeds is within the limit. -/
theorem depth_le_of_call {workspace : Workspace} {limit depth : Int} {name : String}
    {body : List Token} (called : workspace.call limit name depth = .ok body) : depth ≤ limit := by
  unfold call at called
  split at called
  · split at called
    · cases called
    · omega
  · cases called
  · cases called

end Workspace

namespace Machine

/-- A step changes the frames in one of the three ways. -/
theorem follows_of_step {limit : Int} {machine next : Machine}
    (stepped : machine.step limit = .running next) :
    Frames.Follows limit next.frames machine.frames := by
  obtain ⟨frames, workspace⟩ := machine
  unfold step at stepped
  split at stepped
  next => cases stepped
  next outer same =>
    cases stepped
    exact same ▸ .leave outer
  next name rest outer same =>
    split at stepped
    next body called =>
      cases stepped
      exact same ▸ .enter _ body rest outer (Workspace.depth_le_of_call called)
    next => cases stepped
  next token rest outer _ same =>
    split at stepped
    next =>
      cases stepped
      exact same ▸ .take token rest outer
    next => cases stepped

/-! ### Running to the end -/

/-- Runs a machine to its end. -/
def run (limit : Int) (machine : Machine) : RunEnd :=
  match _ : machine.step limit with
  | .ended final => final
  | .running next => next.run limit
termination_by (⟨machine.frames⟩ : Frames.Bounded limit)
decreasing_by exact follows_of_step (by assumption)

end Machine

end Forth
