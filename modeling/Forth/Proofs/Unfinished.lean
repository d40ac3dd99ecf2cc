/-
This file describes texts that end within a definition, and what the parser says
of them. The words of such a text are statements and then an open definition,
which may have another open definition in its body, and so on. Words that can be
continued to a program are of this form, or are a program already, and each open
definition can be completed.

The parser asks for more if each open definition begins its body with the next
one. It does not if a statement stands between them: then the body is taken to
be at an end where the inner definition begins, and the text is refused although
it could be completed.
-/

import Forth.Proofs.Layout
import Forth.Proofs.Reading

namespace Forth.Syntax

open Forth.Parser (Failure)

/-! ### Open definitions -/

/-- The beginning of a definition, up to where the words end. -/
inductive OpenDefinition where
  /-- There is no name yet. -/
  | unnamed
  /-- The words end in the body, after some statements. -/
  | inBody (name : Name) (body : Program)
  /-- The words end in another definition, which stands in the body after some statements. -/
  | around (name : Name) (body : Program) (inner : OpenDefinition)

namespace OpenDefinition

/-- The words of an open definition. -/
def words : OpenDefinition → List Word
  | .unnamed => [openingWord]
  | .inBody name body => openingWord :: name.word :: body.words
  | .around name body inner => openingWord :: name.word :: (body.words ++ inner.words)

/-- How the parser refuses an open definition. -/
def failure : OpenDefinition → Failure
  | .unnamed => .ended "a word name"
  | .inBody _ body => unclosedFailure body [] (.ended (Terminal.keywordText openingWord))
  | .around _ body inner => unclosedFailure body inner.words inner.failure

/-- Whether each definition that is opened within another one is the first thing in its body. -/
def nestsAtOnce : OpenDefinition → Bool
  | .around _ body inner => body.isEmpty && inner.nestsAtOnce
  | _ => true

theorem exists_words (opened : OpenDefinition) : ∃ rest, opened.words = openingWord :: rest := by
  cases opened <;> exact ⟨_, rfl⟩

theorem words_ne_nil (opened : OpenDefinition) : opened.words ≠ [] := by
  obtain ⟨rest, words⟩ := opened.exists_words
  rw [words]
  exact List.cons_ne_nil _ _

theorem refused (opened : OpenDefinition) : Refused opened.words opened.failure := by
  induction opened with
  | unnamed => exact .nameMissing
  | inBody name body =>
    have unclosed := Refused.unclosed name body [] _ .ended (not_closed_nil body)
    rw [List.append_nil] at unclosed
    exact unclosed
  | around name body inner inductionHypothesis =>
    refine .unclosed name body inner.words inner.failure inductionHypothesis ?_
    obtain ⟨rest, words⟩ := inner.exists_words
    rw [words]
    exact not_closed_cons (by decide) body rest

/-- Where a statement stands before an inner definition, the parser expects the end of the body. -/
theorem failure_of_not_nestsAtOnce {opened : OpenDefinition} (late : opened.nestsAtOnce = false) :
    opened.failure = .unexpected (Terminal.keywordText closingWord) openingWord := by
  induction opened with
  | unnamed => cases late
  | inBody name body => cases late
  | around name body inner inductionHypothesis =>
    cases body with
    | nil =>
      rw [failure, inductionHypothesis late]
      rfl
    | cons first others =>
      obtain ⟨rest, words⟩ := inner.exists_words
      rw [failure, words]
      rfl

theorem isIncomplete_failure (opened : OpenDefinition) :
    opened.failure.isIncomplete = opened.nestsAtOnce := by
  induction opened with
  | unnamed => rfl
  | inBody name body => cases body <;> rfl
  | around name body inner inductionHypothesis =>
    cases body with
    | nil =>
      cases atOnce : inner.nestsAtOnce with
      | false =>
        rw [failure, failure_of_not_nestsAtOnce atOnce, nestsAtOnce, atOnce]
        rfl
      | true =>
        rw [atOnce] at inductionHypothesis
        have noWord : inner.failure.word? = none := Option.isNone_iff_eq_none.1 inductionHypothesis
        rw [failure, nestsAtOnce, atOnce, unclosedFailure, Parser.bodyFailure, noWord]
        rfl
    | cons first others =>
      obtain ⟨rest, words⟩ := inner.exists_words
      rw [failure, words]
      rfl

end OpenDefinition

/-! ### Beginnings of programs -/

/-- Whether a beginning of a statement is nothing, all of it, or an open definition. -/
def Statement.Divisible (statement : Statement) : Prop :=
  ∀ front back : List Word, statement.words = front ++ back →
    front = [] ∨ back = [] ∨ ∃ opened : OpenDefinition, front = opened.words

theorem Program.exists_of_append_of_forall {program : Program} {front back : List Word}
    (divisible : ∀ statement ∈ program, statement.Divisible) (same : program.words = front ++ back) :
    ∃ before : Program, front = before.words ∨
      ∃ opened : OpenDefinition, front = before.words ++ opened.words := by
  induction program generalizing front with
  | nil =>
    obtain ⟨rfl, -⟩ := List.append_eq_nil_iff.1 same.symm
    exact ⟨[], .inl rfl⟩
  | cons statement rest inductionHypothesis =>
    rw [words_cons] at same
    obtain ⟨later, rfl, restWords⟩ | ⟨missing, statementWords, -⟩ :=
      List.append_eq_append_iff.1 same
    · obtain ⟨before, words | ⟨opened, words⟩⟩ := inductionHypothesis
        (fun inner member => divisible inner (List.mem_cons_of_mem _ member)) restWords
      · exact ⟨statement :: before, .inl (by rw [words, words_cons])⟩
      · exact ⟨statement :: before, .inr ⟨opened, by rw [words, words_cons, List.append_assoc]⟩⟩
    · obtain rfl | rfl | ⟨opened, words⟩ :=
        divisible statement List.mem_cons_self front missing statementWords
      · exact ⟨[], .inl rfl⟩
      · refine ⟨[statement], .inl ?_⟩
        rw [words_cons, statementWords, List.append_nil]
        exact (List.append_nil _).symm
      · exact ⟨[], .inr ⟨opened, words⟩⟩

theorem Statement.divisible (statement : Statement) : statement.Divisible := by
  induction statement with
  | atom leaf =>
    intro front back same
    cases front with
    | nil => exact .inl rfl
    | cons word rest =>
      have none := (List.cons.inj same).2
      exact .inr (.inl (List.append_eq_nil_iff.1 none.symm).2)
  | definition name first others inductionHypothesis =>
    intro front back same
    rw [words_definition] at same
    rcases front with _ | ⟨_, _ | ⟨_, front⟩⟩
    · exact .inl rfl
    · cases (List.cons.inj same).1
      exact .inr (.inr ⟨.unnamed, rfl⟩)
    · obtain ⟨rfl, named⟩ := List.cons.inj same
      obtain ⟨rfl, body⟩ := List.cons.inj named
      obtain ⟨closing, rfl, ends⟩ | ⟨missing, bodyWords, -⟩ := List.append_eq_append_iff.1 body
      · -- The beginning holds the whole body, so all that can be missing is the closing word.
        cases closing with
        | nil =>
          refine .inr (.inr ⟨.inBody name (first :: others), ?_⟩)
          rw [List.append_nil]
          rfl
        | cons word rest =>
          have none := (List.cons.inj ends).2
          exact .inr (.inl (List.append_eq_nil_iff.1 none.symm).2)
      · obtain ⟨before, words | ⟨opened, words⟩⟩ :=
          Program.exists_of_append_of_forall inductionHypothesis bodyWords
        · exact .inr (.inr ⟨.inBody name before, by rw [words]; rfl⟩)
        · exact .inr (.inr ⟨.around name before opened, by rw [words]; rfl⟩)

/-- A beginning of a program is a program, or a program and an open definition. -/
theorem Program.exists_of_append {program : Program} {front back : List Word}
    (same : program.words = front ++ back) :
    ∃ before : Program, front = before.words ∨
      ∃ opened : OpenDefinition, front = before.words ++ opened.words :=
  exists_of_append_of_forall (fun statement _ => statement.divisible) same

/-! ### Completing an open definition -/

/-- The definition of a name by some statements and a last one. -/
def Statement.define (name : Name) (body : Program) (last : Statement) : Statement :=
  match body with
  | [] => .definition name last []
  | first :: others => .definition name first (others ++ [last])

theorem Statement.words_define (name : Name) (body : Program) (last : Statement) :
    (Statement.define name body last).words =
      openingWord :: name.word :: (body.words ++ last.words ++ [closingWord]) := by
  cases body with
  | nil =>
    rw [define, words_definition, Program.words_cons, Program.words, List.append_nil]
    rfl
  | cons first others =>
    have bodyWords : Program.words (first :: (others ++ [last])) =
        Program.words (first :: others) ++ last.words := by
      rw [← List.cons_append, Program.words_append, Program.words_cons last, Program.words,
        List.append_nil]
    rw [define, words_definition, bodyWords]

namespace OpenDefinition

/-- The number one, as a statement that can end any body. -/
def filler : Statement :=
  .atom (.number ⟨.absent, [1], by decide, by decide⟩)

/-- A definition that an open definition begins. -/
def close : OpenDefinition → Statement
  | .unnamed => .define ⟨"x", by decide⟩ [] filler
  | .inBody name body => .define name body filler
  | .around name body inner => .define name body inner.close

/-- The lines that close an open definition, the innermost first. -/
def ending : OpenDefinition → String
  | .unnamed => "x 1 ;"
  | .inBody _ _ => "1 ;"
  | .around _ _ inner => inner.ending ++ "\n" ++ ";"

theorem words_append_ending (opened : OpenDefinition) :
    opened.words ++ Text.words opened.ending = opened.close.words := by
  induction opened with
  | unnamed => rfl
  | inBody name body =>
    have last : Text.words "1 ;" = filler.words ++ [closingWord] := rfl
    rw [close, Statement.words_define, words, ending, last, List.append_assoc, List.cons_append,
      List.cons_append]
  | around name body inner inductionHypothesis =>
    have last : Text.words ";" = [closingWord] := rfl
    rw [close, Statement.words_define, ← inductionHypothesis, words, ending,
      Text.words_append_line, last, List.cons_append, List.cons_append]
    simp only [List.append_assoc]

end OpenDefinition

/-! ### Asking for more -/

/-- Whether the words do not end in an open definition, or end in one that nests at once. -/
def NestsAtOnce (words : List Word) : Prop :=
  ∀ (before : Program) (opened : OpenDefinition),
    words = before.words ++ opened.words → opened.nestsAtOnce = true

theorem exists_of_not_nestsAtOnce {words : List Word} (late : ¬ NestsAtOnce words) :
    ∃ (before : Program) (opened : OpenDefinition),
      words = before.words ++ opened.words ∧ opened.nestsAtOnce = false := by
  by_contra none
  refine late fun before opened split => ?_
  cases atOnce : opened.nestsAtOnce with
  | false => exact absurd ⟨before, opened, split, atOnce⟩ none
  | true => rfl

section Text

variable {text : String} {before : Program} {opened : OpenDefinition}

/-- A text that ends in an open definition is refused on account of it. -/
theorem parse_of_open (split : Text.words text = before.words ++ opened.words) :
    parse text = .error opened.failure :=
  parse_eq_error_iff.2 ⟨before, opened.words, split, opened.words_ne_nil, opened.refused⟩

/-- A text that ends in an open definition can be completed. -/
theorem parse_append_ending (split : Text.words text = before.words ++ opened.words) :
    parse (text ++ "\n" ++ opened.ending) = .ok (Program.tokens (before ++ [opened.close])) := by
  have words : Text.words (text ++ "\n" ++ opened.ending) =
      Program.words (before ++ [opened.close]) := by
    rw [Text.words_append_line, split, List.append_assoc, opened.words_append_ending,
      Program.words_append, Program.words_cons, Program.words, List.append_nil]
  rw [parse, words]
  exact parseWords_words _

/-- A text that begins a program and is none itself ends in an open definition. -/
theorem exists_open_of_isPrefix {whole : String} {tokens : List Token}
    (parsed : parse whole = .ok tokens) (begins : Text.words text <+: Text.words whole)
    (unfinished : ∀ tokens, parse text ≠ .ok tokens) :
    ∃ (before : Program) (opened : OpenDefinition),
      Text.words text = before.words ++ opened.words := by
  obtain ⟨program, words, -⟩ := parseWords_eq_ok_iff.1 parsed
  obtain ⟨missing, same⟩ := begins
  obtain ⟨before, complete | ⟨opened, split⟩⟩ := Program.exists_of_append (words.trans same.symm)
  · refine absurd ?_ (unfinished before.tokens)
    rw [parse, complete]
    exact parseWords_words before
  · exact ⟨before, opened, split⟩

/-- The parser asks to continue the beginning of a program if each definition nests at once. -/
theorem exists_incomplete_of_isPrefix (atOnce : NestsAtOnce (Text.words text)) {whole : String}
    {tokens : List Token} (parsed : parse whole = .ok tokens)
    (begins : Text.words text <+: Text.words whole) (unfinished : ∀ tokens, parse text ≠ .ok tokens) :
    ∃ failure, parse text = .error failure ∧ failure.isIncomplete = true := by
  obtain ⟨before, opened, split⟩ := exists_open_of_isPrefix parsed begins unfinished
  refine ⟨opened.failure, parse_of_open split, ?_⟩
  rw [opened.isIncomplete_failure]
  exact atOnce before opened split

/-- A definition that is opened late is refused, although it can be completed. -/
theorem parse_of_not_nestsAtOnce (late : ¬ NestsAtOnce (Text.words text)) :
    parse text = .error (.unexpected (Terminal.keywordText closingWord) openingWord) ∧
    ∃ continuation tokens, parse (text ++ "\n" ++ continuation) = .ok tokens := by
  obtain ⟨before, opened, split, openedLate⟩ := exists_of_not_nestsAtOnce late
  refine ⟨?_, opened.ending, _, parse_append_ending split⟩
  rw [parse_of_open split, OpenDefinition.failure_of_not_nestsAtOnce openedLate]

end Text

theorem words_isPrefix_append_line (text continuation : String) :
    Text.words text <+: Text.words (text ++ "\n" ++ continuation) := by
  rw [Text.words_append_line]
  exact List.prefix_append _ _

theorem parse_ne_ok {text : String} {failure : Failure} (refused : parse text = .error failure)
    (tokens : List Token) : parse text ≠ .ok tokens := by
  intro parsed
  cases refused.symm.trans parsed

/-- The exact extent to which the parser asks for more where more could help. In the first form, a
text that is refused for good can not be completed by any continuation. In the second form, a text
that begins a program and is none itself is one that the parser asks to continue. Both hold if each
inner open definition stands first in its body. If one does not, the text is refused because of the
word that opens it, although there is a continuation. -/
theorem asks_for_more_iff_nestsAtOnce (text : String) :
    ((∀ (continuation : String) (failure : Failure), parse text = .error failure →
        failure.isIncomplete = false →
        ∃ later, parse (text ++ "\n" ++ continuation) = .error later) ↔
      NestsAtOnce (Text.words text)) ∧
    ((∀ (whole : String) (tokens : List Token), parse whole = .ok tokens →
        Text.words text <+: Text.words whole → (∀ tokens, parse text ≠ .ok tokens) →
        ∃ failure, parse text = .error failure ∧ failure.isIncomplete = true) ↔
      NestsAtOnce (Text.words text)) ∧
    (¬ NestsAtOnce (Text.words text) →
      parse text = .error (.unexpected (Terminal.keywordText closingWord) openingWord) ∧
      ∃ continuation tokens, parse (text ++ "\n" ++ continuation) = .ok tokens) := by
  refine ⟨⟨fun rejected => ?_, fun atOnce continuation failure refused final => ?_⟩,
    ⟨fun asks => ?_, fun atOnce whole tokens => exists_incomplete_of_isPrefix atOnce⟩,
    parse_of_not_nestsAtOnce⟩
  · by_contra late
    obtain ⟨refused, continuation, tokens, completed⟩ := parse_of_not_nestsAtOnce late
    obtain ⟨later, refusedToo⟩ := rejected continuation _ refused rfl
    exact parse_ne_ok refusedToo tokens completed
  · cases parsed : parse (text ++ "\n" ++ continuation) with
    | error later => exact ⟨later, rfl⟩
    | ok tokens =>
      obtain ⟨reason, refusedToo, incomplete⟩ := exists_incomplete_of_isPrefix atOnce parsed
        (words_isPrefix_append_line text continuation) (parse_ne_ok refused)
      cases refused.symm.trans refusedToo
      rw [final] at incomplete
      cases incomplete
  · by_contra late
    obtain ⟨refused, continuation, tokens, completed⟩ := parse_of_not_nestsAtOnce late
    obtain ⟨failure, refusedToo, incomplete⟩ := asks _ tokens completed
      (words_isPrefix_append_line text continuation) (parse_ne_ok refused)
    cases refused.symm.trans refusedToo
    cases incomplete

/-- A text that is refused for good and can be completed all the same: the body of the outer
definition has a statement before the inner definition. -/
theorem exists_final_refusal_of_completable :
    ¬ ∀ (text continuation : String) (failure : Failure), parse text = .error failure →
      failure.isIncomplete = false →
      ∃ later, parse (text ++ "\n" ++ continuation) = .error later := by
  intro always
  have split : Text.words ": f 1 : g" = Program.words [] ++ (OpenDefinition.around
      ⟨"f", by decide⟩ [OpenDefinition.filler] (.inBody ⟨"g", by decide⟩ [])).words := rfl
  obtain ⟨later, refused⟩ := always _ _ _ (parse_of_open split) rfl
  exact parse_ne_ok refused _ (parse_append_ending split)

end Forth.Syntax
