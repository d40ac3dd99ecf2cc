/-
This file says where the words of a dictionary come from. A definition is stored
when a run comes to it, and what a run comes to was written: in the program, in the
dictionary at the beginning, or in the body of a definition that was. A word may be
defined anew, even by a body that has been replaced since, but it is never removed.

So the words in the report of a program are among those that it defines, and if
nothing halts it, then none is missing that it defines outside of other definitions.
-/

import Forth.Proofs.Safety
import Forth.Proofs.Sequencing
import Forth.Proofs.Trace

namespace Forth

namespace Machine

variable {limit : Int} {machine next later : Machine}

/-! ### What is stored -/

/-- A property of definitions that all have which are stored, if it is known what tokens are run. -/
theorem definitions_of_reaches {holds : Token → Prop} {stored : Definition → Prop}
    (hereditary : Hereditary holds) (everywhere : Everywhere holds machine)
    (stores : ∀ name body, holds (.store name body) → stored ⟨name, body⟩)
    (first : ∀ definition ∈ machine.workspace.dictionary.definitions, stored definition)
    (reaches : Reaches limit machine later) :
    ∀ definition ∈ later.workspace.dictionary.definitions, stored definition := by
  induction reaches with
  | refl => exact first
  | tail reaches stepped inductionHypothesis =>
    have frames := (everywhere.of_reaches hereditary reaches).frames
    cases step_eq_running_iff.1 stepped with
    | leave | operate | enter => exact inductionHypothesis
    | define name body rest outer workspace dictionary defined =>
      intro definition member
      obtain rfl | old := Dictionary.mem_definitions_of_store defined member
      · exact stores name body (frames _ List.mem_cons_self _ List.mem_cons_self)
      · exact inductionHypothesis definition old

/-- Every definition that a run has at some time was there from the beginning or is written. -/
theorem definition_written (tokens : List Token) (workspace : Workspace)
    (reaches : Reaches limit (start tokens workspace) machine) :
    ∀ definition ∈ machine.workspace.dictionary.definitions,
      definition ∈ workspace.dictionary.definitions ∨
        (Token.store definition.name definition.body).WrittenIn tokens workspace.dictionary :=
  definitions_of_reaches (hereditary_writtenIn tokens workspace.dictionary)
    (everywhere_writtenIn tokens workspace) (fun _ _ written => .inr written)
    (fun _ present => .inl present) reaches

/-! ### What stays known -/

theorem knows_of_transition {name : String} (known : machine.workspace.dictionary.Knows name)
    (transition : Transition limit machine next) : next.workspace.dictionary.Knows name := by
  cases transition with
  | leave | operate | enter => exact known
  | define _ _ _ _ _ _ stored => exact known.of_store stored

theorem knows_of_reaches {name : String} (known : machine.workspace.dictionary.Knows name)
    (reaches : Reaches limit machine later) : later.workspace.dictionary.Knows name :=
  of_reaches (fun _ _ => knows_of_transition) known reaches

/-- A definition that comes first is stored, and the word is known ever after. -/
theorem knows_of_run_cons {name : String} {body rest : List Token} {workspace : Workspace}
    (finished : ((start (.store name body :: rest) workspace).run limit).fault = none) :
    ((start (.store name body :: rest) workspace).run limit).workspace.dictionary.Knows name := by
  unfold start at finished ⊢
  cases stored : workspace.dictionary.store name body with
  | error error =>
    rw [(Obstacle.define name body rest [] workspace error stored).run_eq] at finished
    cases finished
  | ok dictionary =>
    obtain ⟨last, reaches, stops⟩ := exists_stops limit
      ⟨[rest], workspace.afterDefinition name dictionary⟩
    rw [(Transition.define name body rest [] workspace dictionary stored).run_eq,
      stops.workspace_eq]
    exact knows_of_reaches (Dictionary.knows_of_store stored) reaches

/-- A run that comes to its end has stored all definitions that are among its tokens. -/
theorem knows_of_run {tokens : List Token} {name : String} {body : List Token}
    {workspace : Workspace} (finished : ((start tokens workspace).run limit).fault = none)
    (member : .store name body ∈ tokens) :
    ((start tokens workspace).run limit).workspace.dictionary.Knows name := by
  obtain ⟨before, rest, rfl⟩ := List.append_of_mem member
  rw [run_start_append] at finished ⊢
  generalize (start before workspace).run limit = first at finished ⊢
  obtain ⟨between, fault⟩ := first
  cases fault with
  | some fault => cases finished
  | none => exact knows_of_run_cons finished

end Machine

/-! ### The words of a report -/

theorem Dictionary.mem_names_iff {dictionary : Dictionary} {names : List String} {name : String}
    (listed : dictionary.names = .ok names) : name ∈ names ↔ dictionary.Knows name := by
  obtain ⟨_ | vocabulary⟩ := dictionary
  · cases listed
  · cases listed
    rw [Vocabulary.mem_names_iff]
    exact exists_congr fun body => ⟨congrArg Except.ok, Except.ok.inj⟩

theorem Dictionary.pairwise_names {dictionary : Dictionary} {names : List String}
    (listed : dictionary.names = .ok names) : names.Pairwise (· < ·) := by
  obtain ⟨_ | vocabulary⟩ := dictionary
  · cases listed
  · cases listed
    exact vocabulary.pairwise_names

/-- A program that can be read begins without words, so all that it ends with are written in it. -/
theorem written_of_parse {limit : Int} {text : String} {tokens : List Token}
    (parsed : parse text = .ok tokens) {name : String} {body : List Token}
    (found : ((Evaluator.fresh .empty .empty limit).run tokens).1.workspace.dictionary.search name =
      .ok (some body)) :
    body ≠ [] ∧ (Token.store name body).OccursIn tokens := by
  obtain ⟨last, reaches, left, -⟩ := Evaluator.exists_last limit .empty .empty tokens
  rw [left] at found
  have present := Dictionary.mem_definitions_of_search found
  obtain none | occurs | ⟨_, none, -⟩ := Machine.definition_written tokens _ reaches _ present
  · cases none
  · refine ⟨?_, occurs⟩
    cases occurs.of_hereditary hereditary_wellFormed (Syntax.wellFormed_of_parse parsed) with
    | store _ _ _ nonempty _ => exact nonempty
  · cases none

/-- A program that can be read and that nothing halts has stored the definitions among its tokens.
-/
theorem knows_of_parse {limit : Int} {text : String} {tokens : List Token}
    (parsed : parse text = .ok tokens)
    (noError : ((Evaluator.fresh .empty .empty limit).run tokens).1.error = none) {name : String}
    {body : List Token} (member : .store name body ∈ tokens) :
    ((Evaluator.fresh .empty .empty limit).run tokens).1.workspace.dictionary.Knows name := by
  obtain ⟨-, errors⟩ := Machine.run_start_of_wellFormed (Syntax.wellFormed_of_parse parsed)
  rw [Evaluator.run_fresh] at noError ⊢
  refine Machine.knows_of_run ?_ member
  cases stopped : ((Machine.start tokens (.fresh .empty .empty)).run limit).fault with
  | none => rfl
  | some fault =>
    obtain ⟨error, rfl⟩ := errors fault stopped
    rw [RunEnd.error?_eq_some_iff.2 stopped] at noError
    cases noError

/-- At any time of a run, each definition was there at the beginning or is written, token for token,
in the program or in a body that was there at the beginning, and words stay known for the rest of
the run. The words in the report of a program are in order, each of them has a body which is not
empty and is written in the program, and unless the program is halted they include all names that it
defines outside of other definitions. -/
theorem run_words_written (limit : Int) :
    (∀ (stack : Stack) (dictionary : Dictionary) (tokens : List Token) (machine : Machine),
      Machine.Reaches limit (.start tokens (.fresh stack dictionary)) machine →
        (∀ definition ∈ machine.workspace.dictionary.definitions,
          definition ∈ dictionary.definitions ∨
            (Token.store definition.name definition.body).WrittenIn tokens dictionary) ∧
        ∀ later, Machine.Reaches limit machine later →
          ∀ name, machine.workspace.dictionary.Knows name → later.workspace.dictionary.Knows name) ∧
    ∀ (text : String) (tokens : List Token), parse text = .ok tokens →
      ∃ report, run limit text = .ok report ∧
        let dictionary := ((Evaluator.fresh .empty .empty limit).run tokens).1.workspace.dictionary
        dictionary.names = .ok report.words ∧ report.words.Pairwise (· < ·) ∧
          (∀ name ∈ report.words, ∃ body, dictionary.search name = .ok (some body) ∧
            body ≠ [] ∧ (Token.store name body).OccursIn tokens) ∧
          (report.error = none → ∀ name body, .store name body ∈ tokens → name ∈ report.words) := by
  refine ⟨fun stack dictionary tokens machine reaches => ⟨?_, ?_⟩, fun text tokens parsed => ?_⟩
  · exact Machine.definition_written tokens (.fresh stack dictionary) reaches
  · exact fun later onward name known => Machine.knows_of_reaches known onward
  · refine ⟨_, run_of_parse_eq_ok parsed, ?_⟩
    intro dictionary
    obtain ⟨-, isOpen⟩ := isOpen_of_parse limit parsed
    obtain ⟨vocabulary, contents⟩ := Dictionary.exists_vocabulary_of_isOpen isOpen
    have listed : dictionary.names = .ok (dictionary.names.toOption.getD []) := by
      simp only [dictionary, Dictionary.names, Dictionary.withVocabulary, contents]
      rfl
    refine ⟨listed, Dictionary.pairwise_names listed, fun name member => ?_,
      fun noError name body defined => ?_⟩
    · obtain ⟨body, found⟩ := (Dictionary.mem_names_iff listed).1 member
      exact ⟨body, found, written_of_parse parsed found⟩
    · exact (Dictionary.mem_names_iff listed).2 (knows_of_parse parsed noError defined)

/-- A word that defines another word and then itself anew. Its second body stood in the first one,
which is not in the dictionary any more. -/
theorem run_words_written_replaced :
    let tokens : List Token := [.store "f" [.store "g" [.push (.int 1)], .store "f" [.search "g"]],
      .search "f", .search "f"]
    parse ": f : g 1 ; : f g ; ; f f" = .ok tokens ∧
    ∃ report, run defaultLimit ": f : g 1 ; : f g ; ; f f" = .ok report ∧ report.error = none ∧
      report.stack = [.int 1] ∧ report.words = ["f", "g"] ∧
      (Token.store "f" [.search "g"]).OccursIn tokens := by
  intro tokens
  let f : Syntax.Name := ⟨"f", by decide⟩
  let g : Syntax.Name := ⟨"g", by decide⟩
  let call (name : Syntax.Name) (free : Grammar.operation? name.word = none) : Syntax.Statement :=
    .atom (.reference ⟨name, Syntax.free_of_operation? free⟩)
  have parsed : parse ": f : g 1 ; : f g ; ; f f" = .ok tokens :=
    Syntax.parseWords_words
      [.definition f (.definition g (.atom (.number ⟨.absent, [1], by decide, by decide⟩)) [])
        [.definition f (call g (by decide)) []], call f (by decide), call f (by decide)]
  obtain ⟨words, renewed, names, finished⟩ : ∃ words : Dictionary,
      words.search "f" = .ok (some [.search "g"]) ∧ words.names = .ok ["f", "g"] ∧
      (Machine.start tokens (.fresh .empty .empty)).runWithin defaultLimit 20 =
        some ⟨⟨.ofList [.int 1], words, [], ["f", "g", "f"]⟩, none⟩ := ⟨_, rfl, rfl, rfl⟩
  have ended := Evaluator.run_fresh_of_runWithin finished
  obtain ⟨report, ran, listed, -, written, -⟩ := (run_words_written defaultLimit).2 _ tokens parsed
  have told : report = Report.ofEvaluator _ tokens _ :=
    Except.ok.inj (ran.symm.trans (run_of_parse_eq_ok parsed))
  rw [ended] at listed written told
  have inOrder : ["f", "g"] = report.words := Except.ok.inj (names.symm.trans listed)
  obtain ⟨body, found, -, occurs⟩ := written "f" (inOrder ▸ List.mem_cons_self)
  cases renewed.symm.trans found
  exact ⟨parsed, report, ran, by rw [told]; rfl, by rw [told]; rfl, inOrder.symm, occurs⟩

end Forth
