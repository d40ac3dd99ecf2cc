/-
This file says that a program that can be read is run to an end, and that nothing
but an error of the program itself ends it early. The parser reads well-formed
tokens only, and whatever words are defined on the way, only such tokens are ever
run. So no token is misused, and each accident that an operation can still have
after it was checked is told as an error.
-/

import Forth.Report
import Forth.Proofs.Accident
import Forth.Proofs.Invariant
import Forth.Proofs.WellFormed

namespace Forth

/-! ### Well-formed tokens in a run -/

theorem hereditary_wellFormed : Hereditary Token.WellFormed := by
  intro name body wellFormed
  cases wellFormed with
  | store _ _ _ _ members => exact members

/-- An operation on an open stack is misused only if it is a push without a number. -/
theorem Stack.arguments_eq_nil_of_misuse {stack : Stack} {opcode : Opcode}
    {arguments : List Number} {cause : Misuse}
    (failed : stack.execute opcode arguments = .error (.misuse cause)) :
    opcode = .push ∧ arguments = [] := by
  unfold execute at failed
  split at failed
  next => cases failed
  next values _ =>
    split at failed
    next => cases failed
    next fault failedEffect =>
      cases failed
      cases checked : opcode.check values with
      | some error =>
        rw [Opcode.effect_of_check_eq_some checked] at failedEffect
        cases failedEffect
      | none =>
        obtain ⟨accident, suffers⟩ := Opcode.exists_suffers_of_effect failedEffect
        obtain ⟨-, handled⟩ | ⟨push, missing, -⟩ := Opcode.effect_of_suffers checked suffers
        · rw [handled] at failedEffect
          cases failedEffect
        · exact ⟨push, missing⟩

/-- An operation that is called by its own name has the arguments that it takes, so it is never
misused. -/
theorem Stack.perform_call_ne_misuse (stack : Stack) (opcode : Opcode)
    (arguments : Vector Number opcode.parameters) (cause : Misuse) :
    (stack.perform (.call opcode arguments)).1 ≠ .error (.misuse cause) := by
  intro misused
  have failed : stack.execute opcode arguments.toList = .error (.misuse cause) := by
    simp only [perform, answerOperation] at misused
    cases performed : stack.execute opcode arguments.toList with
    | ok result =>
      rw [performed] at misused
      cases misused
    | error fault =>
      rw [performed] at misused
      cases misused
      rfl
  obtain ⟨rfl, missing⟩ := arguments_eq_nil_of_misuse failed
  have one : arguments.toList.length = 1 := arguments.length_toList
  rw [missing] at one
  cases one

namespace Machine

variable {limit : Int} {machine : Machine}

/-- Where all tokens are well formed, what stops a run is an error and never a misuse. -/
theorem Obstacle.exists_error {fault : Fault} (everywhere : Everywhere Token.WellFormed machine)
    (obstacle : Obstacle limit machine fault) : ∃ error, fault = .halt error := by
  cases obstacle with
  | operate opcode arguments rest outer workspace fault failed =>
    cases fault with
    | halt error => exact ⟨error, rfl⟩
    | misuse cause =>
      obtain ⟨rfl, rfl⟩ := Stack.arguments_eq_nil_of_misuse failed
      have wellFormed := everywhere.frames _ List.mem_cons_self _ List.mem_cons_self
      exact absurd rfl wellFormed.arguments_ne_nil
  | define name body rest outer workspace error failed => exact ⟨error, rfl⟩
  | enter name rest outer workspace error failed => exact ⟨error, rfl⟩

/-- If the next token is an operation that passes the check, then all that it can suffer is a result
without a representation, and the run is halted because of a number that is too large. -/
def TellsAccidents (limit : Int) (machine : Machine) : Prop :=
  ∀ opcode arguments rest outer values accident,
    machine.frames = (.operation opcode arguments :: rest) :: outer →
    machine.workspace.stack.contents? = some values →
    opcode.check values = none → opcode.Suffers arguments values accident →
    accident.isHandled = true ∧
      machine.step limit = .ended ⟨machine.workspace, some (.halt .numberTooLarge)⟩

theorem tellsAccidents (everywhere : Everywhere Token.WellFormed machine) :
    TellsAccidents limit machine := by
  obtain ⟨_, workspace⟩ := machine
  rintro opcode arguments rest outer values accident rfl contents checked suffers
  obtain ⟨handled, failed⟩ | ⟨rfl, rfl, -⟩ := Opcode.effect_of_suffers checked suffers
  · refine ⟨handled, (Obstacle.operate opcode arguments rest outer workspace _ ?_).step_eq⟩
    simp only at contents
    simp only [Stack.execute, contents, failed]
  · have wellFormed := everywhere.frames _ List.mem_cons_self _ List.mem_cons_self
    exact absurd rfl wellFormed.arguments_ne_nil

/-- A run of well-formed tokens ends with an open workspace, and with an error if anything stopped
it. -/
theorem run_start_of_wellFormed {tokens : List Token}
    (wellFormed : ∀ token ∈ tokens, token.WellFormed) :
    ((start tokens (Workspace.fresh .empty .empty)).run limit).workspace.IsOpen ∧
    ∀ fault, ((start tokens (Workspace.fresh .empty .empty)).run limit).fault = some fault →
      ∃ error, fault = .halt error := by
  obtain ⟨last, reaches, stops⟩ :=
    exists_stops limit (start tokens (Workspace.fresh .empty .empty))
  have isOpen : last.workspace.IsOpen := isOpen_of_reaches ⟨rfl, rfl⟩ reaches
  have everywhere := (everywhere_start wellFormed).of_reaches hereditary_wellFormed reaches
  generalize (start tokens (Workspace.fresh .empty .empty)).run limit = final at stops
  cases stops with
  | finished workspace => exact ⟨isOpen, nofun⟩
  | obstructed _ fault obstacle =>
    refine ⟨isOpen, fun _ same => ?_⟩
    cases same
    exact obstacle.exists_error everywhere

end Machine

namespace Evaluator

/-! ### Evaluators -/

theorem workspace_finish (evaluator : Evaluator) (final : RunEnd) :
    (evaluator.finish final).1.workspace = final.workspace := by
  unfold finish
  split <;> rfl

/-- An evaluator answers unless a token was misused. -/
theorem exists_output_of_finish {evaluator : Evaluator} {final : RunEnd}
    (errors : ∀ fault, final.fault = some fault → ∃ error, fault = .halt error) :
    ∃ output, (evaluator.finish final).2 = .ok output := by
  obtain ⟨workspace, fault⟩ := final
  match fault with
  | none => exact ⟨_, rfl⟩
  | some (.halt error) => exact ⟨_, rfl⟩
  | some (.misuse cause) =>
    obtain ⟨error, same⟩ := errors _ rfl
    cases same

end Evaluator

/-! ### Running a text -/

theorem tokensOfReading_readStatements (text : String) :
    tokensOfReading (readStatements (Text.words text)) = parse text := rfl

/-- The record of reading a text. -/
def recordOfReading (text : String) : LogRecord :=
  readingRecord (Text.words text) (readStatements (Text.words text))

theorem runWithLog_of_parse_eq_error {limit : Int} {text : String} {failure : Parser.Failure}
    (refused : parse text = .error failure) :
    runWithLog limit text = ⟨[recordOfReading text], .error (.unreadable failure)⟩ := by
  simp only [runWithLog, tokensOfReading_readStatements, refused, recordOfReading]

theorem runWithLog_of_parse_eq_ok {limit : Int} {text : String} {tokens : List Token}
    (parsed : parse text = .ok tokens) :
    let evaluator := ((Evaluator.fresh .empty .empty limit).run tokens).1
    runWithLog limit text =
      ⟨recordOfReading text :: evaluationRecords evaluator,
        .ok (Report.ofEvaluator text tokens evaluator)⟩ := by
  obtain ⟨-, errors⟩ := Machine.run_start_of_wellFormed (Syntax.wellFormed_of_parse parsed)
  obtain ⟨output, answered⟩ : ∃ output,
      ((Evaluator.fresh .empty .empty limit).run tokens).2 = .ok output :=
    Evaluator.exists_output_of_finish errors
  simp only [runWithLog, tokensOfReading_readStatements, parsed, answered, recordOfReading]

theorem run_of_parse_eq_error {limit : Int} {text : String} {failure : Parser.Failure}
    (refused : parse text = .error failure) : run limit text = .error (.unreadable failure) := by
  rw [run, runWithLog_of_parse_eq_error refused]

theorem run_of_parse_eq_ok {limit : Int} {text : String} {tokens : List Token}
    (parsed : parse text = .ok tokens) :
    run limit text =
      .ok (Report.ofEvaluator text tokens ((Evaluator.fresh .empty .empty limit).run tokens).1) := by
  rw [run, runWithLog_of_parse_eq_ok parsed]

/-- The stack and the names in a report are those at the end of the run. -/
theorem isOpen_of_parse (limit : Int) {text : String} {tokens : List Token}
    (parsed : parse text = .ok tokens) :
    ((Evaluator.fresh .empty .empty limit).run tokens).1.workspace.IsOpen := by
  obtain ⟨isOpen, -⟩ := Machine.run_start_of_wellFormed (Syntax.wellFormed_of_parse parsed)
  rw [Evaluator.run, Evaluator.workspace_finish]
  exact isOpen

theorem isA_runtime (error : RuntimeError) : error.diagnostic.kind.isA .runtime = true := by
  cases error <;> rfl

/-- A program is refused if and only if it can not be read. Any other is reported, with an error of
the running program or none, and with its stack and its names as they are at the end. Every token
that is run is well formed, so a push has its number, and whatever an operation suffers after it was
checked is told as an error. What a definition is made of is always a name and a body that is not
empty. -/
theorem run_reports_or_refuses (limit : Int) (text : String) :
    (∀ failure, run limit text = .error (.unreadable failure) ↔ parse text = .error failure) ∧
    (∀ tokens, parse text = .ok tokens →
      (∃ report, run limit text = .ok report ∧ report.tokens = tokens ∧
        (∀ error, report.error = some error → error.diagnostic.kind.isA .runtime = true) ∧
        let evaluator := ((Evaluator.fresh .empty .empty limit).run tokens).1
        evaluator.workspace.stack.values = .ok report.stack ∧
          evaluator.workspace.dictionary.names = .ok report.words) ∧
      ∀ machine,
        Machine.Reaches limit (.start tokens (Workspace.fresh .empty .empty)) machine →
        machine.Everywhere Token.WellFormed ∧ machine.TellsAccidents limit) ∧
    Grammar.definitionParts = .transform Syntax.definitionSequence Grammar.define ∧
    ∀ (room : Nat) (words rest : List Word) (made : Parser.Match),
      Parser.applyWithin Grammar.rules room Syntax.definitionSequence words = .success made rest →
      ∃ (name : String) (body : List Token), Grammar.isName name = true ∧ body ≠ [] ∧
        made = .list [.text name, .list (body.map .token)] := by
  refine ⟨fun failure => ⟨fun refused => ?_, run_of_parse_eq_error⟩, fun tokens parsed => ⟨?_, ?_⟩,
    Syntax.definitionParts_eq, fun room words rest made applied => ?_⟩
  · cases parsed : parse text with
    | error other =>
      rw [run_of_parse_eq_error parsed] at refused
      cases refused
      rfl
    | ok tokens =>
      rw [run_of_parse_eq_ok parsed] at refused
      cases refused
  · refine ⟨_, run_of_parse_eq_ok parsed, rfl, fun error _ => isA_runtime error, ?_⟩
    obtain ⟨stack, dictionary⟩ := isOpen_of_parse limit parsed
    obtain ⟨values, contents⟩ := Stack.exists_values_of_isOpen stack
    obtain ⟨vocabulary, defined⟩ := Dictionary.exists_vocabulary_of_isOpen dictionary
    simp only [Report.ofEvaluator, Stack.values, contents, Dictionary.names,
      Dictionary.withVocabulary, defined]
    exact ⟨rfl, rfl⟩
  · intro machine reaches
    have everywhere := (Machine.everywhere_start (Syntax.wellFormed_of_parse parsed)).of_reaches
      hereditary_wellFormed reaches
    exact ⟨everywhere, Machine.tellsAccidents everywhere⟩
  · exact Syntax.exists_parts_of_definition room applied

end Forth
