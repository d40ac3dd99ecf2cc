/-
This file says that programs of integers compute exactly. If nothing that is written
divides, and whatever is pushed is an integer, then a run goes step by step with that
of an ideal machine, whose values are integers and which knows no bound on their
size. At any time the stack has the integers of the ideal machine, and what was
printed is the decimal text of what it printed.

So integers of any size are neither rounded nor refused, except where they are
written: the text of an integer may be too long. Unless that happens, the run comes
wherever the ideal machine does.
-/

import Forth.Proofs.CallPaths
import Forth.Proofs.DepthLimit
import Forth.Proofs.ListModel
import Forth.Proofs.Sequencing
import Forth.Proofs.Trace

namespace Forth

/-! ### Integers only -/

/-- A token that does not divide, at whatever depth, and that pushes one integer if it pushes. -/
inductive Token.Integral : Token → Prop where
  | push (value : Int) : Integral (.push (.int value))
  | operation (opcode : Opcode) (arguments : List Number) (notPush : opcode ≠ .push)
      (notDivide : opcode ≠ .divide) : Integral (.operation opcode arguments)
  | search (name : String) : Integral (.search name)
  | store (name : String) (body : List Token) (members : ∀ token ∈ body, Integral token) :
      Integral (.store name body)

theorem hereditary_integral : Hereditary Token.Integral := by
  intro name body integral
  cases integral with
  | store _ _ members => exact members

theorem Token.Integral.ne_divide {opcode : Opcode} {arguments : List Number}
    (integral : (Token.operation opcode arguments).Integral) : opcode ≠ .divide := by
  cases integral with
  | push => exact nofun
  | operation _ _ _ notDivide => exact notDivide

/-- Whether a text is that of an integer in the decimal system. -/
def Number.IsDecimalText (text : String) (value : Int) : Prop :=
  ∃ numeral : Syntax.Numeral, numeral.IsPlain ∧ numeral.word = text ∧ numeral.value = value

/-! ### The ideal machine -/

/-- The integer that an operation on integers prints, if any, and those that it leaves, top first.
-/
def Opcode.onIntegers? (opcode : Opcode) (arguments : List Number) (integers : List Int) :
    Option (Option Int × List Int) :=
  match opcode, integers with
  | .push, integers =>
    match arguments with
    | .int value :: _ => some (none, value :: integers)
    | _ => none
  | .pop, top :: rest => some (some top, rest)
  | .add, top :: second :: rest => some (none, (top + second) :: rest)
  | .subtract, top :: second :: rest => some (none, (top - second) :: rest)
  | .multiply, top :: second :: rest => some (none, (top * second) :: rest)
  | .duplicate, top :: rest => some (none, top :: top :: rest)
  | .drop, _ :: rest => some (none, rest)
  | .swap, top :: second :: rest => some (none, second :: top :: rest)
  | .over, top :: second :: rest => some (none, second :: top :: second :: rest)
  | _, _ => none

/-- A run in progress of a machine that has integers only. The latest of those that it printed come
first. -/
structure IntegerMachine where
  frames : Frames
  dictionary : Dictionary
  integers : List Int
  printed : List Int

namespace IntegerMachine

/-- A run of tokens that is about to begin. -/
def start (tokens : List Token) (dictionary : Dictionary) (integers : List Int) : IntegerMachine :=
  ⟨[tokens], dictionary, integers, []⟩

/-- What a step of the machine does. -/
inductive Step (limit : Int) : IntegerMachine → IntegerMachine → Prop where
  | leave (outer : Frames) (dictionary : Dictionary) (integers printed : List Int) :
      Step limit ⟨[] :: outer, dictionary, integers, printed⟩ ⟨outer, dictionary, integers, printed⟩
  | operate (opcode : Opcode) (arguments : List Number) (rest : List Token) (outer : Frames)
      (dictionary : Dictionary) (integers printed left : List Int) (output : Option Int)
      (computed : opcode.onIntegers? arguments integers = some (output, left)) :
      Step limit ⟨(.operation opcode arguments :: rest) :: outer, dictionary, integers, printed⟩
        ⟨rest :: outer, dictionary, left, output.toList ++ printed⟩
  | define (name : String) (body rest : List Token) (outer : Frames)
      (dictionary next : Dictionary) (integers printed : List Int)
      (stored : dictionary.store name body = .ok next) :
      Step limit ⟨(.store name body :: rest) :: outer, dictionary, integers, printed⟩
        ⟨rest :: outer, next, integers, printed⟩
  | enter (name : String) (body rest : List Token) (outer : Frames) (dictionary : Dictionary)
      (integers printed : List Int) (found : dictionary.search name = .ok (some body))
      (allowed : (outer.length : Int) + 1 ≤ limit) :
      Step limit ⟨(.search name :: rest) :: outer, dictionary, integers, printed⟩
        ⟨body :: rest :: outer, dictionary, integers, printed⟩

/-- Whether a machine is reached from another in any number of steps. -/
def Reaches (limit : Int) : IntegerMachine → IntegerMachine → Prop :=
  Relation.ReflTransGen (Step limit)

/-- What the machine does is determined. -/
theorem Step.unique {limit : Int} {machine next other : IntegerMachine}
    (step : Step limit machine next) (otherStep : Step limit machine other) : next = other := by
  cases step with
  | leave =>
    cases otherStep
    rfl
  | operate _ _ _ _ _ _ _ _ _ computed =>
    cases otherStep with
    | operate _ _ _ _ _ _ _ _ _ again =>
      cases computed.symm.trans again
      rfl
  | define _ _ _ _ _ _ _ _ stored =>
    cases otherStep with
    | define _ _ _ _ _ _ _ _ again =>
      cases stored.symm.trans again
      rfl
  | enter _ _ _ _ _ _ _ found =>
    cases otherStep with
    | enter _ _ _ _ _ _ _ again =>
      cases found.symm.trans again
      rfl

end IntegerMachine

/-! ### Going together -/

/-- An operation that rewrites integers does so exactly. -/
theorem Opcode.Rewrites.exists_onIntegers? {opcode : Opcode} {arguments next : List Number}
    {integers : List Int} {text : String}
    (rewrites : opcode.Rewrites arguments (integers.map .int) text next)
    (integral : (Token.operation opcode arguments).Integral) :
    ∃ output left, opcode.onIntegers? arguments integers = some (output, left) ∧
      next = left.map .int ∧
      output.elim (text = "") fun value => Number.intText? value = some text := by
  generalize same : integers.map Number.int = values at rewrites
  cases rewrites with
  | push value others =>
    subst same
    cases integral with
    | push value => exact ⟨none, value :: integers, rfl, rfl, rfl⟩
    | operation _ _ notPush => exact absurd rfl notPush
  | pop _ top rest _ written =>
    obtain ⟨value, others, rfl, rfl, rfl⟩ := List.map_eq_cons_iff.1 same
    exact ⟨some value, others, rfl, rfl, written⟩
  | combine _ operation _ top second result rest arithmetic _ computed =>
    obtain ⟨first, _, rfl, rfl, below⟩ := List.map_eq_cons_iff.1 same
    obtain ⟨other, others, rfl, rfl, rfl⟩ := List.map_eq_cons_iff.1 below
    cases opcode with
    | add | subtract | multiply =>
      cases arithmetic
      cases computed
      exact ⟨none, _ :: others, rfl, rfl, rfl⟩
    | divide => exact absurd rfl integral.ne_divide
    | _ => cases arithmetic
  | duplicate _ top rest | drop _ top rest =>
    obtain ⟨value, others, rfl, rfl, rfl⟩ := List.map_eq_cons_iff.1 same
    exact ⟨none, _, rfl, rfl, rfl⟩
  | swap _ top second rest | «over» _ top second rest =>
    obtain ⟨first, _, rfl, rfl, below⟩ := List.map_eq_cons_iff.1 same
    obtain ⟨other, others, rfl, rfl, rfl⟩ := List.map_eq_cons_iff.1 below
    exact ⟨none, _, rfl, rfl, rfl⟩

/-- An operation that can be computed on integers is performed, unless it is to print too many
digits. -/
theorem Opcode.effect_of_onIntegers? {opcode : Opcode} {arguments : List Number}
    {integers left : List Int} {output : Option Int}
    (computed : opcode.onIntegers? arguments integers = some (output, left)) :
    (∃ effect, opcode.effect arguments (integers.map .int) = .ok effect) ∨
      opcode.effect arguments (integers.map .int) = .error (.halt .numberTooLarge) := by
  unfold onIntegers? at computed
  split at computed
  next =>
    split at computed
    next value others => exact .inl ⟨⟨"", _⟩, rfl⟩
    next => cases computed
  next top rest =>
    rw [List.map_cons, effect]
    cases (Number.int top).text? with
    | none => exact .inr rfl
    | some text => exact .inl ⟨⟨text, _⟩, rfl⟩
  all_goals first | exact .inl ⟨⟨"", _⟩, rfl⟩ | cases computed

namespace Machine

variable {limit : Int} {machine next later : Machine} {ideal : IntegerMachine}

/-- Whether a machine is where an ideal machine is, with the same integers and their texts. -/
structure Mirrors (machine : Machine) (ideal : IntegerMachine) : Prop where
  frames : machine.frames = ideal.frames
  dictionary : machine.workspace.dictionary = ideal.dictionary
  stack : machine.workspace.stack = .ofList (ideal.integers.map .int)
  printed : List.Forall₂ Number.IsDecimalText machine.workspace.printed ideal.printed

/-- Each step on integers is a step of the ideal machine. -/
theorem Mirrors.of_transition (mirrors : machine.Mirrors ideal)
    (everywhere : Everywhere Token.Integral machine) (transition : Transition limit machine next) :
    ∃ after, IntegerMachine.Step limit ideal after ∧ next.Mirrors after := by
  obtain ⟨frames, dictionary, integers, printed⟩ := ideal
  obtain ⟨rfl, rfl, stack, texts⟩ := mirrors
  cases transition with
  | leave outer workspace =>
    exact ⟨_, .leave outer _ integers printed, rfl, rfl, stack, texts⟩
  | operate opcode arguments rest outer workspace text left executed =>
    simp only at stack
    rw [stack, Stack.execute_ofList] at executed
    cases performed : opcode.effect arguments (integers.map .int) with
    | error fault =>
      rw [performed] at executed
      cases executed
    | ok effect =>
      rw [performed] at executed
      cases executed
      have integral := everywhere.frames _ List.mem_cons_self _ List.mem_cons_self
      obtain ⟨output, values, computed, same, written⟩ :=
        (Opcode.rewrites_iff.2 performed).exists_onIntegers? integral
      refine ⟨_, .operate opcode arguments rest outer _ integers printed values output computed,
        rfl, rfl, congrArg Stack.ofList same, ?_⟩
      cases output with
      | none =>
        have silent : effect.output = "" := written
        simpa [Workspace.afterOperation, silent] using texts
      | some value =>
        have text : (Number.int value).text? = some effect.output := written
        have seen := Number.isEmpty_of_text? text
        simpa [Workspace.afterOperation, seen] using
          ⟨Number.exists_plain_of_intText? written, texts⟩
  | define name body rest outer workspace dictionary stored =>
    exact ⟨_, .define name body rest outer _ dictionary integers printed stored,
      rfl, rfl, stack, texts⟩
  | enter name body rest outer workspace found allowed =>
    exact ⟨_, .enter name body rest outer _ integers printed found allowed,
      rfl, rfl, stack, texts⟩

/-- Wherever a run on integers comes, the ideal machine comes too. -/
theorem Mirrors.of_reaches (mirrors : machine.Mirrors ideal)
    (everywhere : Everywhere Token.Integral machine) (reaches : Reaches limit machine later) :
    ∃ after, IntegerMachine.Reaches limit ideal after ∧ later.Mirrors after := by
  induction reaches with
  | refl => exact ⟨ideal, .refl, mirrors⟩
  | tail reaches stepped inductionHypothesis =>
    obtain ⟨between, before, mirrored⟩ := inductionHypothesis
    obtain ⟨after, step, mirrors⟩ := mirrored.of_transition
      (everywhere.of_reaches hereditary_integral reaches) (step_eq_running_iff.1 stepped)
    exact ⟨after, before.tail step, mirrors⟩

/-- Each step of the ideal machine is one of the run, unless there are too many digits to print. -/
theorem Mirrors.of_step {after : IntegerMachine} (mirrors : machine.Mirrors ideal)
    (everywhere : Everywhere Token.Integral machine)
    (step : IntegerMachine.Step limit ideal after) :
    (∃ next, Transition limit machine next ∧ next.Mirrors after) ∨
      Obstacle limit machine (.halt .numberTooLarge) := by
  have goesOn : (∃ next, Transition limit machine next) ∨
      Obstacle limit machine (.halt .numberTooLarge) := by
    obtain ⟨frames, workspace⟩ := machine
    obtain ⟨same, words, stack, -⟩ := mirrors
    simp only at same words stack
    cases step with
    | leave outer =>
      subst same
      exact .inl ⟨_, .leave outer workspace⟩
    | operate opcode arguments rest outer dictionary integers printed left output computed =>
      subst same
      have executed := Stack.execute_ofList (integers.map .int) opcode arguments
      rw [← stack] at executed
      obtain ⟨effect, performed⟩ | failed := Opcode.effect_of_onIntegers? computed
      · rw [performed] at executed
        exact .inl ⟨_, .operate opcode arguments rest outer workspace _ _ executed⟩
      · rw [failed] at executed
        exact .inr (.operate opcode arguments rest outer workspace _ executed)
    | define name body rest outer dictionary next integers printed stored =>
      subst same words
      exact .inl ⟨_, .define name body rest outer workspace next stored⟩
    | enter name body rest outer dictionary integers printed found allowed =>
      subst same words
      exact .inl ⟨_, .enter name body rest outer workspace found allowed⟩
  refine goesOn.imp_left fun ⟨next, transition⟩ => ?_
  obtain ⟨other, otherStep, mirrored⟩ := mirrors.of_transition everywhere transition
  obtain rfl := otherStep.unique step
  exact ⟨next, transition, mirrored⟩

/-- Wherever the ideal machine comes, a run on integers comes too, unless there are too many digits
to print on the way. -/
theorem Mirrors.exists_reaches {after : IntegerMachine} (mirrors : machine.Mirrors ideal)
    (everywhere : Everywhere Token.Integral machine)
    (reaches : IntegerMachine.Reaches limit ideal after) :
    (∃ later, Reaches limit machine later ∧ later.Mirrors after) ∨
      ∃ last, Reaches limit machine last ∧ Obstacle limit last (.halt .numberTooLarge) := by
  induction reaches with
  | refl => exact .inl ⟨machine, .refl, mirrors⟩
  | tail _ step inductionHypothesis =>
    obtain ⟨between, before, mirrored⟩ | stopped := inductionHypothesis
    · obtain ⟨next, transition, mirrors⟩ | obstacle :=
        mirrored.of_step (everywhere.of_reaches hereditary_integral before) step
      · exact .inl ⟨next, before.tail transition.step_eq, mirrors⟩
      · exact .inr ⟨between, before, obstacle⟩
    · exact .inr stopped

end Machine

/-! ### Errors -/

/-- Of the numbers that are too large, integers know only those that can not be written. -/
theorem Opcode.TooLarge.of_integers {opcode : Opcode} {integers : List Int}
    (tooLarge : opcode.TooLarge (integers.map .int)) (notDivide : opcode ≠ .divide) :
    ∃ top others, opcode = .pop ∧ integers = top :: others ∧
      10 ^ Number.digitLimit ≤ top.natAbs := by
  generalize same : integers.map Number.int = values at tooLarge
  cases tooLarge with
  | text top rest long =>
    obtain ⟨value, others, rfl, isTop, -⟩ := List.map_eq_cons_iff.1 same
    cases isTop
    exact ⟨top, others, rfl, rfl, long⟩
  | operand _ top second rest _ meets =>
    obtain ⟨first, _, rfl, rfl, below⟩ := List.map_eq_cons_iff.1 same
    obtain ⟨other, others, rfl, rfl, rfl⟩ := List.map_eq_cons_iff.1 below
    cases meets
  | quotient => exact absurd rfl notDivide

namespace Machine

variable {limit : Int} {machine : Machine} {ideal : IntegerMachine} {error : RuntimeError}

/-- An obstacle that is neither a call nor a dictionary that was closed is an operation that fails.
-/
theorem Obstacle.exists_operation (obstacle : Obstacle limit machine (.halt error))
    (notClosed : error ≠ .dictionaryClosed) (notOfCall : ¬ error.IsOfCall) :
    ∃ opcode arguments rest outer, machine.frames = (.operation opcode arguments :: rest) :: outer ∧
      machine.workspace.stack.execute opcode arguments = .error (.halt error) := by
  obtain ⟨token, rest, outer, frames, halts⟩ :=
    obstacle.halts_or_closed.resolve_right fun ⟨_, same⟩ => notClosed same
  cases halts with
  | operate opcode arguments _ failed => exact ⟨opcode, arguments, rest, outer, frames, failed⟩
  | unknown name => exact absurd ⟨name, .inl rfl⟩ notOfCall
  | tooDeep name => exact absurd ⟨name, .inr rfl⟩ notOfCall

/-- Of a division by zero and a number that is too large, integers know only the second, and it is
one that is to be printed and has too many digits. -/
theorem Mirrors.exists_tooLarge (mirrors : machine.Mirrors ideal)
    (everywhere : Everywhere Token.Integral machine)
    (obstacle : Obstacle limit machine (.halt error))
    (told : error = .divisionByZero ∨ error = .numberTooLarge) :
    error = .numberTooLarge ∧ ∃ arguments rest outer top others,
      machine.frames = (.operation .pop arguments :: rest) :: outer ∧
      ideal.integers = top :: others ∧ 10 ^ Number.digitLimit ≤ top.natAbs := by
  have notClosed : error ≠ .dictionaryClosed := by rintro rfl; simp at told
  have notOfCall : ¬ error.IsOfCall := by rintro ⟨name, rfl | rfl⟩ <;> simp at told
  obtain ⟨opcode, arguments, rest, outer, frames, failed⟩ :=
    obstacle.exists_operation notClosed notOfCall
  rw [mirrors.stack, Stack.execute_ofList_eq_error_iff] at failed
  have integral : (Token.operation opcode arguments).Integral :=
    everywhere.frames _ (frames ▸ List.mem_cons_self) _ List.mem_cons_self
  obtain ⟨same, -⟩ | ⟨-, division⟩ | ⟨same, -⟩ | ⟨same, tooLarge⟩ | ⟨same, -⟩ :=
    Opcode.cases_of_effect_eq_error failed
  · cases same
    simp at told
  · exact absurd division integral.ne_divide
  · cases same
    simp at told
  · obtain ⟨top, others, rfl, integers, long⟩ := tooLarge.of_integers integral.ne_divide
    cases same
    exact ⟨rfl, arguments, rest, outer, top, others, frames, integers, long⟩
  · cases same

end Machine

/-- If nothing that is written divides and what is pushed is always an integer, then programs
compute exactly on integers. At any time a run is where the ideal machine comes, with its integers,
and what was printed is the text of what it printed, without a plus and without leading zeros. And
the run comes wherever the ideal machine does, unless a number that is too large halts it. That
happens only if an integer is to be printed which has too many digits, and no division by zero halts
the run. -/
theorem Evaluator.run_integers (limit : Int) (integers : List Int) (dictionary : Dictionary)
    (tokens : List Token) (tokensIntegral : ∀ token ∈ tokens, token.Integral)
    (bodiesIntegral : ∀ definition ∈ dictionary.definitions,
      ∀ token ∈ definition.body, token.Integral) :
    let before := fresh (.ofList (integers.map .int)) dictionary limit
    let after := (before.run tokens).1
    (∀ machine, Machine.Reaches limit (.start tokens before.workspace) machine →
      ∃ ideal, IntegerMachine.Reaches limit (.start tokens dictionary integers) ideal ∧
        machine.Mirrors ideal) ∧
    (∀ ideal, IntegerMachine.Reaches limit (.start tokens dictionary integers) ideal →
      after.error = some .numberTooLarge ∨
        ∃ machine, Machine.Reaches limit (.start tokens before.workspace) machine ∧
          machine.Mirrors ideal) ∧
    (∃ frames, Machine.Reaches limit (.start tokens before.workspace) ⟨frames, after.workspace⟩) ∧
    after.error ≠ some .divisionByZero ∧
    (after.error = some .numberTooLarge → ∃ arguments rest outer top others,
      Machine.Reaches limit (.start tokens before.workspace)
        ⟨(.operation .pop arguments :: rest) :: outer, after.workspace⟩ ∧
      after.workspace.stack = .ofList (.int top :: others) ∧
      10 ^ Number.digitLimit ≤ top.natAbs) := by
  intro before after
  have everywhere : Machine.Everywhere Token.Integral (.start tokens before.workspace) :=
    ⟨List.forall_mem_singleton.2 tokensIntegral, bodiesIntegral⟩
  have mirrors : Machine.Mirrors (.start tokens before.workspace)
      (.start tokens dictionary integers) := ⟨rfl, rfl, rfl, .nil⟩
  obtain ⟨last, reaches, left, stops⟩ := exists_last limit (.ofList (integers.map .int)) dictionary
    tokens
  obtain ⟨ideal, -, lastMirrors⟩ := mirrors.of_reaches everywhere reaches
  have lastEverywhere := everywhere.of_reaches hereditary_integral reaches
  refine ⟨fun machine => mirrors.of_reaches everywhere, fun ideal ahead => ?_, ⟨last.frames, ?_⟩,
    fun halted => ?_, fun halted => ?_⟩
  · obtain followed | ⟨stopped, way, obstacle⟩ := mirrors.exists_reaches everywhere ahead
    · exact .inr followed
    · have ended := way.run_eq.trans obstacle.run_eq
      have halted : after.error = (Machine.run limit (.start tokens before.workspace)).error? :=
        congrArg (·.1.error) (run_fresh _ _ limit tokens)
      exact .inl (halted.trans (congrArg RunEnd.error? ended))
  · rw [left]
    exact reaches
  · exact nomatch (lastMirrors.exists_tooLarge lastEverywhere (stops _ halted) (.inl rfl)).1
  · obtain ⟨-, arguments, rest, outer, top, others, frames, same, long⟩ :=
      lastMirrors.exists_tooLarge lastEverywhere (stops _ halted) (.inr rfl)
    refine ⟨arguments, rest, outer, top, others.map .int, ?_, ?_, long⟩
    · rw [left, ← frames]
      exact reaches
    · rw [left, lastMirrors.stack, same, List.map_cons]

/-- A program that prints the square of what is on the stack. -/
def printSquare : List Token :=
  [.store "square" [.operation .duplicate [], .operation .multiply []], .search "square",
    .operation .pop []]

/-- A square that is no floating point number is printed to its last digit. Then an integer with one
digit more than is allowed halts the program. -/
theorem Evaluator.run_integers_printSquare :
    let stack : Stack := .ofList [.int 98765432109876543211, .int (-10 ^ Number.digitLimit)]
    let run := (fresh stack .empty defaultLimit).run (printSquare ++ [.operation .pop []])
    run.1.workspace.outputs = ["9754610579850632525875019051998750190521"] ∧
      run.1.error = some .numberTooLarge ∧
      ∃ top others, run.1.workspace.stack = .ofList (.int top :: others) ∧
        10 ^ Number.digitLimit ≤ top.natAbs := by
  have magnitude (count : Nat) : 10 ^ count ≤ (-10 ^ count : Int).natAbs := by
    rw [Int.natAbs_neg, Int.natAbs_pow]
    exact le_rfl
  have unwritable := Number.intText?_eq_none_iff.2 (magnitude Number.digitLimit)
  generalize (-10 ^ Number.digitLimit : Int) = below at unwritable
  intro stack run
  obtain ⟨words, finished⟩ : ∃ words,
      (Machine.start printSquare (.fresh stack .empty)).runWithin defaultLimit 20 =
        some ⟨⟨.ofList [.int below], words, ["9754610579850632525875019051998750190521"],
          ["square"]⟩, none⟩ := ⟨_, rfl⟩
  have refused : (Stack.ofList [.int below]).execute .pop [] = .error (.halt .numberTooLarge) := by
    rw [Stack.execute_ofList, Opcode.effect, Number.text?, unwritable]
    rfl
  have halted (workspace : Workspace) (left : workspace.stack = .ofList [.int below]) :
      (Machine.start [.operation .pop []] workspace).run defaultLimit =
        ⟨workspace, some (.halt .numberTooLarge)⟩ :=
    (Machine.Obstacle.operate .pop [] [] [] workspace _ (left ▸ refused)).run_eq
  have ended : run = _ := run_fresh _ _ _ _
  rw [Machine.run_start_append, Machine.run_of_runWithin finished, RunEnd.andThen_finished,
    halted _ rfl] at ended
  have integral : ∀ token ∈ printSquare ++ [.operation .pop []], token.Integral := by
    have operation (opcode : Opcode) (notPush : opcode ≠ .push) (notDivide : opcode ≠ .divide) :
        (Token.operation opcode []).Integral := .operation opcode [] notPush notDivide
    simp [printSquare, operation, Token.Integral.search, Token.Integral.store]
  obtain ⟨-, -, -, -, tooLarge⟩ := run_integers defaultLimit [98765432109876543211, below] .empty
    (printSquare ++ [.operation .pop []]) integral (List.forall_mem_nil _)
  have error : run.1.error = some .numberTooLarge := by rw [ended]; rfl
  obtain ⟨_, _, _, top, others, -, left, long⟩ := tooLarge error
  exact ⟨by rw [ended]; rfl, error, top, others, left, long⟩

end Forth
