/-
This file bounds the resources of a run. Words may call themselves and each
other and may be defined anew while they run, so nothing in the program itself
says that a run ends. What bounds it is the limit on the depth of calls and the
length of the bodies, and no body is ever longer than those that are written in
the program or in the dictionary at the beginning.

A token that can call a word may cost as many iterations as the body of the
word, one level deeper. `tokenCost` counts them level by level, and the sum over
all frames decreases with every step.
-/

import Forth.Proofs.Transition
import Forth.Proofs.Vocabulary
import Mathlib.Algebra.Order.Ring.Nat
import Mathlib.Tactic.Ring

namespace Forth

/-! ### The length of bodies -/

mutual

/-- The greatest length of the bodies within a token, at any nesting. -/
def Token.nestedLength : Token → Nat
  | .store _ body => max body.length (nestedLength body)
  | _ => 0

/-- The greatest length of the bodies within tokens, at any nesting. -/
def nestedLength : List Token → Nat
  | [] => 0
  | token :: rest => max token.nestedLength (nestedLength rest)

end

/-- The greatest length of some tokens and the bodies within them. -/
def greatestLength (tokens : List Token) : Nat :=
  max tokens.length (nestedLength tokens)

/-- The greatest length of the bodies in a dictionary and the bodies within them. -/
def Dictionary.greatestLength (dictionary : Dictionary) : Nat :=
  (dictionary.definitions.map fun definition => Forth.greatestLength definition.body).foldr max 0

theorem greatestLength_le_of_mem {dictionary : Dictionary} {definition : Definition}
    (member : definition ∈ dictionary.definitions) :
    greatestLength definition.body ≤ dictionary.greatestLength := by
  unfold Dictionary.greatestLength
  generalize dictionary.definitions = definitions at member
  induction definitions with
  | nil => cases member
  | cons first rest inductionHypothesis =>
    rw [List.map_cons, List.foldr_cons]
    rcases List.mem_cons.1 member with rfl | later
    · exact le_max_left _ _
    · exact (inductionHypothesis later).trans (le_max_right _ _)

namespace Machine

variable {limit : Int} {bound : Nat}

/-! ### What every step keeps -/

/-- What bounds a run: the bodies that are still to be run or can be called are not longer than a
bound, and there are no more frames than the limit allows. -/
structure Within (limit : Int) (bound : Nat) (machine : Machine) : Prop where
  frames : ∀ tokens ∈ machine.frames, nestedLength tokens ≤ bound
  definitions : ∀ definition ∈ machine.workspace.dictionary.definitions,
    greatestLength definition.body ≤ bound
  depth : machine.frames.length ≤ limit.toNat + 1

theorem nestedLength_le_of_cons {token : Token} {rest : List Token}
    (within : nestedLength (token :: rest) ≤ bound) :
    token.nestedLength ≤ bound ∧ nestedLength rest ≤ bound := by
  rw [nestedLength] at within
  exact max_le_iff.1 within

/-- Every step keeps within the bounds. -/
theorem Within.of_transition {machine next : Machine} (within : Within limit bound machine)
    (transition : Transition limit machine next) : Within limit bound next := by
  obtain ⟨frames, definitions, depth⟩ := within
  cases transition with
  | leave outer workspace =>
    refine ⟨fun tokens member => frames tokens (List.mem_cons_of_mem _ member), definitions, ?_⟩
    exact (Nat.le_succ _).trans depth
  | operate opcode arguments rest outer workspace text stack executed =>
    obtain ⟨first, others⟩ := List.forall_mem_cons.1 frames
    exact ⟨List.forall_mem_cons.2 ⟨(nestedLength_le_of_cons first).2, others⟩, definitions, depth⟩
  | define name body rest outer workspace dictionary stored =>
    obtain ⟨first, others⟩ := List.forall_mem_cons.1 frames
    obtain ⟨bodyBound, restBound⟩ := nestedLength_le_of_cons first
    refine ⟨List.forall_mem_cons.2 ⟨restBound, others⟩, fun definition member => ?_, depth⟩
    rcases Dictionary.mem_definitions_of_store stored member with rfl | old
    · rw [Token.nestedLength] at bodyBound
      exact bodyBound
    · exact definitions definition old
  | enter name body rest outer workspace found allowed =>
    obtain ⟨first, others⟩ := List.forall_mem_cons.1 frames
    have bodyBound := definitions _ (Dictionary.mem_definitions_of_search found)
    refine ⟨List.forall_mem_cons.2 ⟨(max_le_iff.1 bodyBound).2, List.forall_mem_cons.2
      ⟨(nestedLength_le_of_cons first).2, others⟩⟩, definitions, ?_⟩
    simp only [List.length_cons] at depth ⊢
    omega

/-! ### The cost of a run -/

/-- The most iterations that one token can take, where calls can still nest as deep as `room`. -/
def tokenCost (bound : Nat) : Nat → Nat
  | 0 => 1
  | room + 1 => bound * tokenCost bound room + 2

/-- The most iterations that frames can take. The frames below a frame tell how deep it is. -/
def framesCost (limit : Int) (bound : Nat) : Frames → Nat
  | [] => 0
  | tokens :: outer =>
    tokens.length * tokenCost bound (limit.toNat - outer.length) + 1 + framesCost limit bound outer

theorem tokenCost_pos (room : Nat) : 0 < tokenCost bound room := by
  cases room with
  | zero => exact Nat.one_pos
  | succ room => exact Nat.succ_pos _

theorem framesCost_pos {frames : Frames} (nonempty : frames ≠ []) :
    0 < framesCost limit bound frames := by
  obtain ⟨tokens, outer, rfl⟩ := List.exists_cons_of_ne_nil nonempty
  rw [framesCost]
  omega

theorem framesCost_cons_cons (token : Token) (rest : List Token) (outer : Frames) :
    framesCost limit bound ((token :: rest) :: outer) =
      tokenCost bound (limit.toNat - outer.length) + framesCost limit bound (rest :: outer) := by
  simp only [framesCost, List.length_cons]
  ring

theorem framesCost_enter {body : List Token} {outer : Frames} (short : body.length ≤ bound)
    (allowed : outer.length < limit.toNat) (rest : List Token) :
    framesCost limit bound (body :: rest :: outer) <
      tokenCost bound (limit.toNat - outer.length) + framesCost limit bound (rest :: outer) := by
  obtain ⟨room, more⟩ : ∃ room, limit.toNat - outer.length = room + 1 :=
    ⟨limit.toNat - outer.length - 1, by omega⟩
  have less : limit.toNat - (rest :: outer).length = room := by
    rw [List.length_cons]
    omega
  have product : body.length * tokenCost bound room ≤ bound * tokenCost bound room :=
    Nat.mul_le_mul_right _ short
  rw [framesCost, less, more, tokenCost]
  omega

/-- Every step reduces the cost of what is left to do. -/
theorem framesCost_lt_of_transition {machine next : Machine}
    (within : Within limit bound machine) (transition : Transition limit machine next) :
    framesCost limit bound next.frames < framesCost limit bound machine.frames := by
  cases transition with
  | leave outer workspace =>
    simp only [framesCost]
    omega
  | operate opcode arguments rest outer workspace text stack executed =>
    rw [framesCost_cons_cons]
    exact Nat.lt_add_of_pos_left (tokenCost_pos _)
  | define name body rest outer workspace dictionary stored =>
    rw [framesCost_cons_cons]
    exact Nat.lt_add_of_pos_left (tokenCost_pos _)
  | enter name body rest outer workspace found allowed =>
    rw [framesCost_cons_cons]
    have short := within.definitions _ (Dictionary.mem_definitions_of_search found)
    exact framesCost_enter ((le_max_left _ _).trans short) (by omega) rest

theorem mul_tokenCost_le (room : Nat) :
    bound * tokenCost bound room + 1 ≤ (bound + 1) ^ (room + 1) := by
  induction room with
  | zero =>
    rw [tokenCost, Nat.mul_one, Nat.zero_add, Nat.pow_one]
  | succ room inductionHypothesis =>
    have least : bound + 1 ≤ (bound + 1) ^ (room + 1) := Nat.le_self_pow (Nat.succ_ne_zero _) _
    calc bound * tokenCost bound (room + 1) + 1
        = bound * (bound * tokenCost bound room + 1) + (bound + 1) := by rw [tokenCost]; ring
      _ ≤ bound * (bound + 1) ^ (room + 1) + (bound + 1) ^ (room + 1) :=
        Nat.add_le_add (Nat.mul_le_mul_left _ inductionHypothesis) least
      _ = (bound + 1) ^ (room + 1 + 1) := by ring

/-! ### Whole runs -/

/-- A run takes a number of iterations of its loop, each of which is a step with frames to run, and
ends as given. -/
inductive Iterates (limit : Int) : Nat → Machine → RunEnd → Prop where
  /-- No frames are left, so the loop is not entered again. -/
  | finish (workspace : Workspace) : Iterates limit 0 ⟨[], workspace⟩ ⟨workspace, none⟩
  /-- The loop is broken off. -/
  | halt (machine : Machine) (final : RunEnd) (nonempty : machine.frames ≠ [])
      (stepped : machine.step limit = .ended final) : Iterates limit 1 machine final
  /-- The loop goes on. -/
  | again (count : Nat) (machine next : Machine) (final : RunEnd)
      (stepped : machine.step limit = .running next) (rest : Iterates limit count next final) :
      Iterates limit (count + 1) machine final

/-- A run within the bounds ends after as many iterations as its frames cost, or fewer. -/
theorem Within.exists_iterates {machine : Machine} (within : Within limit bound machine) :
    ∃ count ≤ framesCost limit bound machine.frames,
      Iterates limit count machine (machine.run limit) := by
  induction cost : framesCost limit bound machine.frames using Nat.strong_induction_on
    generalizing machine with
  | h total inductionHypothesis =>
    subst cost
    obtain ⟨frames, workspace⟩ := machine
    rcases transition_or_obstacle limit ⟨frames, workspace⟩ with rfl | ⟨next, transition⟩ |
      ⟨fault, obstacle⟩
    · rw [run_nil]
      exact ⟨0, Nat.zero_le _, .finish workspace⟩
    · have less := framesCost_lt_of_transition within transition
      obtain ⟨count, bounded, iterates⟩ :=
        inductionHypothesis _ less (within.of_transition transition) rfl
      rw [transition.run_eq]
      exact ⟨count + 1, bounded.trans_lt less, .again count _ next _ transition.step_eq iterates⟩
    · rw [obstacle.run_eq]
      exact ⟨1, framesCost_pos obstacle.frames_ne_nil,
        .halt _ _ obstacle.frames_ne_nil obstacle.step_eq⟩

/-- What a machine can become in any number of steps. -/
def Reaches (limit : Int) : Machine → Machine → Prop :=
  Relation.ReflTransGen fun machine next => machine.step limit = .running next

/-- What every step keeps holds of everything that a run reaches. -/
theorem of_reaches {keeps : Machine → Prop} {machine later : Machine}
    (step : ∀ machine next, keeps machine → Transition limit machine next → keeps next)
    (start : keeps machine) (reaches : Reaches limit machine later) : keeps later := by
  induction reaches with
  | refl => exact start
  | tail _ stepped inductionHypothesis =>
    exact step _ _ inductionHypothesis (step_eq_running_iff.1 stepped)

theorem Within.of_reaches {machine later : Machine} (within : Within limit bound machine)
    (reaches : Reaches limit machine later) : Within limit bound later :=
  Machine.of_reaches (fun _ _ => Within.of_transition) within reaches

theorem within_start (limit : Int) (tokens : List Token) (workspace : Workspace) :
    Within limit (max (greatestLength tokens) workspace.dictionary.greatestLength)
      (start tokens workspace) where
  frames := by
    refine List.forall_mem_singleton.2 ?_
    exact (le_max_right _ _).trans (le_max_left (greatestLength tokens) _)
  definitions _ member := (greatestLength_le_of_mem member).trans (le_max_right _ _)
  depth := Nat.le_add_left 1 limit.toNat

/-- A run ends, however words call each other and are defined anew. With `bound` the greatest length
of the tokens, of the bodies in the dictionary and of all bodies within them, and with `depth` the
limit, or zero if it is negative, the loop is iterated at most `(bound + 1) ^ (depth + 1)` times and
there are never more than `depth + 1` frames. -/
theorem run_resources_le (limit : Int) (tokens : List Token) (workspace : Workspace) :
    let bound := max (greatestLength tokens) workspace.dictionary.greatestLength
    let depth := (max limit 0).toNat
    (∃ count ≤ (bound + 1) ^ (depth + 1), Iterates limit count (start tokens workspace)
      ((start tokens workspace).run limit)) ∧
    ∀ machine, Reaches limit (start tokens workspace) machine →
      machine.frames.length ≤ depth + 1 := by
  intro bound depth
  have within := within_start limit tokens workspace
  have sameDepth : depth = limit.toNat := by omega
  rw [sameDepth]
  constructor
  · obtain ⟨count, bounded, iterates⟩ := within.exists_iterates
    refine ⟨count, bounded.trans ?_, iterates⟩
    have short : tokens.length ≤ bound :=
      (le_max_left _ _).trans (le_max_left (greatestLength tokens) _)
    calc framesCost limit bound [tokens]
        = tokens.length * tokenCost bound limit.toNat + 1 := by simp only [framesCost]; rfl
      _ ≤ bound * tokenCost bound limit.toNat + 1 :=
        Nat.succ_le_succ (Nat.mul_le_mul_right _ short)
      _ ≤ (bound + 1) ^ (limit.toNat + 1) := mul_tokenCost_le limit.toNat
  · intro machine reaches
    exact (within.of_reaches reaches).depth

end Machine

end Forth
