/-
This file says what can become of a text that the parser asks to continue. Such
a text ends in an open definition, and there is a continuation that makes a
program of it.

No continuation changes how the beginning was read. The tokens of the statements
before the open definition come first, and the definition that it turns into has
the statements that were in its body already, at every level of nesting. This is
because a statement ends where its words say, so a program that begins with some
words begins with the statements in them.
-/

import Forth.Proofs.Remainder
import Forth.Proofs.Unfinished

namespace Forth.Syntax

open Forth.Parser (Failure)

/-! ### Failures that ask for more -/

theorem isIncomplete_bodyFailure (failure : Failure) :
    (Parser.bodyFailure failure).isIncomplete = failure.isIncomplete := by
  rw [Failure.isIncomplete, Parser.word?_bodyFailure]
  rfl

/-- Words that are refused because there are too few of them are none at all or an open
definition. -/
theorem Refused.exists_open {words : List Word} {failure : Failure}
    (refused : Refused words failure) (incomplete : failure.isIncomplete = true) :
    words = [] ∨ ∃ opened : OpenDefinition, words = opened.words := by
  induction refused with
  | ended => exact .inl rfl
  | unrecognized | nameInvalid => cases incomplete
  | nameMissing => exact .inr ⟨.unnamed, rfl⟩
  | unclosed name body remainder reason _ _ inductionHypothesis =>
    refine .inr ?_
    cases body with
    | nil =>
      rw [unclosedFailure, isIncomplete_bodyFailure] at incomplete
      obtain rfl | ⟨opened, rfl⟩ := inductionHypothesis incomplete
      · exact ⟨.inBody name [], rfl⟩
      · exact ⟨.around name [] opened, rfl⟩
    | cons first others =>
      -- The parser names the next word if there is one, so the words end in this body.
      cases remainder with
      | nil => exact ⟨.inBody name (first :: others), by rw [List.append_nil]; rfl⟩
      | cons word rest => cases incomplete

theorem isIncomplete_of_kind {failure : Failure} (kind : failure.diagnostic.kind = .incomplete) :
    failure.isIncomplete = true := by
  cases incomplete : failure.isIncomplete with
  | true => rfl
  | false => simp [Failure.diagnostic, incomplete] at kind

/-- A text that the parser asks to continue is some statements and an open definition. -/
theorem exists_open_of_incomplete {text : String} {failure : Failure}
    (refused : parse text = .error failure) (incomplete : failure.isIncomplete = true) :
    ∃ (before : Program) (opened : OpenDefinition),
      Text.words text = before.words ++ opened.words := by
  obtain ⟨before, remainder, words, nonempty, refusedRemainder⟩ := parse_eq_error_iff.1 refused
  obtain none | ⟨opened, same⟩ := refusedRemainder.exists_open incomplete
  · exact absurd none nonempty
  · exact ⟨before, opened, same ▸ words⟩

/-! ### What was read stays read -/

theorem Program.tokens_append (front back : Program) :
    tokens (front ++ back) = tokens front ++ tokens back := by
  induction front with
  | nil => rfl
  | cons statement rest inductionHypothesis =>
    rw [List.cons_append, tokens, tokens, inductionHypothesis, List.cons_append]

/-- Statements whose words begin with those of other statements begin with these statements. -/
theorem Program.exists_append_of_words {before whole : Program} {rest tail : List Word}
    (barren : Barren rest) (same : whole.words ++ rest = before.words ++ tail) :
    ∃ after : Program, whole = before ++ after ∧ after.words ++ rest = tail := by
  induction before generalizing whole with
  | nil => exact ⟨whole, rfl, same⟩
  | cons statement others inductionHypothesis =>
    rw [words_cons, List.append_assoc] at same
    cases whole with
    | nil => exact absurd same (barren statement _)
    | cons first more =>
      rw [words_cons, List.append_assoc] at same
      obtain ⟨rfl, ends⟩ := first.definite statement _ _ same
      obtain ⟨after, rfl, words⟩ := inductionHypothesis ends
      exact ⟨after, rfl, words⟩

/-- Whether a token is a definition that the words of an open definition begin. Its body starts
with the tokens of the statements that are there already. -/
def OpenDefinition.Begins : OpenDefinition → Token → Prop
  | .unnamed, token => ∃ name body, token = .store name body
  | .inBody name body, token => ∃ more, token = .store name.word (body.tokens ++ more)
  | .around name body inner, token =>
    ∃ next more, inner.Begins next ∧ token = .store name.word (body.tokens ++ next :: more)

theorem OpenDefinition.begins_of_words {opened : OpenDefinition} {statement : Statement}
    {rest tail : List Word} (same : statement.words ++ rest = opened.words ++ tail) :
    opened.Begins statement.token := by
  induction opened generalizing statement rest tail with
  | unnamed =>
    obtain ⟨name, first, others, rfl, -⟩ := Statement.exists_eq_definition same
    exact ⟨_, _, Statement.token_definition name first others⟩
  | inBody name body =>
    obtain ⟨name', first, others, rfl, after⟩ := Statement.exists_eq_definition same
    obtain ⟨named, after⟩ := List.cons.inj after
    obtain ⟨more, whole, -⟩ := Program.exists_append_of_words (barren_closingWord rest) after
    refine ⟨Program.tokens more, ?_⟩
    rw [Statement.token_definition, whole, Program.tokens_append, named]
  | around name body inner inductionHypothesis =>
    rw [words, List.cons_append, List.cons_append, List.append_assoc] at same
    obtain ⟨name', first, others, rfl, after⟩ := Statement.exists_eq_definition same
    obtain ⟨named, after⟩ := List.cons.inj after
    obtain ⟨more, whole, after⟩ := Program.exists_append_of_words (barren_closingWord rest) after
    -- The inner definition is one of the statements in the body, since it is not the closing word.
    cases more with
    | nil =>
      obtain ⟨word, words⟩ := inner.exists_words
      rw [words] at after
      exact absurd (List.cons.inj after).1 (by decide)
    | cons next more =>
      rw [Program.words_cons, List.append_assoc] at after
      refine ⟨next.token, Program.tokens more, inductionHypothesis after, ?_⟩
      rw [Statement.token_definition, whole, Program.tokens_append, named, Program.tokens]

/-- However a text goes on that ends in an open definition, if it becomes a program, the tokens of
the statements before come first, and then the one that the open definition begins. -/
theorem exists_tokens_of_parse_append {text continuation : String} {tokens : List Token}
    {before : Program} {opened : OpenDefinition}
    (split : Text.words text = before.words ++ opened.words)
    (parsed : parse (text ++ "\n" ++ continuation) = .ok tokens) :
    ∃ token more, opened.Begins token ∧ tokens = before.tokens ++ token :: more := by
  obtain ⟨whole, words, rfl⟩ := parseWords_eq_ok_iff.1 parsed
  rw [Text.words_append_line, split, List.append_assoc, ← List.append_nil whole.words] at words
  obtain ⟨after, rfl, ends⟩ := Program.exists_append_of_words barren_nil words
  cases after with
  | nil =>
    obtain ⟨rest, opening⟩ := opened.exists_words
    rw [opening] at ends
    cases ends
  | cons statement more =>
    rw [Program.words_cons, List.append_assoc] at ends
    refine ⟨statement.token, Program.tokens more, OpenDefinition.begins_of_words ends, ?_⟩
    rw [Program.tokens_append, Program.tokens]

/-! ### Completing a text -/

/-- The parser never asks for more in vain. A text that it asks to continue has no offending word
and ends in an open definition. Some continuation makes it a program, and every one that does keeps
the statements before the open definition, and those within it. -/
theorem exists_completion_of_incomplete {text : String} {failure : Failure}
    (refused : parse text = .error failure) (incomplete : failure.diagnostic.kind = .incomplete) :
    failure.diagnostic.word = none ∧
    (∃ (before : Program) (opened : OpenDefinition),
      Text.words text = before.words ++ opened.words) ∧
    ∀ (before : Program) (opened : OpenDefinition),
      Text.words text = before.words ++ opened.words →
      (∃ continuation tokens, parse (text ++ "\n" ++ continuation) = .ok tokens) ∧
      ∀ continuation tokens, parse (text ++ "\n" ++ continuation) = .ok tokens →
        ∃ token more, opened.Begins token ∧ tokens = before.tokens ++ token :: more := by
  have asks := isIncomplete_of_kind incomplete
  refine ⟨Option.isNone_iff_eq_none.1 asks, exists_open_of_incomplete refused asks,
    fun before opened split => ⟨⟨opened.ending, _, parse_append_ending split⟩,
      fun continuation tokens parsed => exists_tokens_of_parse_append split parsed⟩⟩

/-- A text with a definition that is open within another one, after a statement. -/
theorem exists_completion_nested :
    parse "1 : f : g 2" = .error (.ended Parser.bodyEnd) ∧
    (∃ continuation tokens, parse ("1 : f : g 2" ++ "\n" ++ continuation) = .ok tokens) ∧
    ∀ continuation tokens, parse ("1 : f : g 2" ++ "\n" ++ continuation) = .ok tokens →
      ∃ body inner more, tokens =
        .push (.int 1) :: .store "f" (.store "g" (.push (.int 2) :: inner) :: body) :: more := by
  have split : Text.words "1 : f : g 2" = Program.words [OpenDefinition.filler] ++
      (OpenDefinition.around ⟨"f", by decide⟩ []
        (.inBody ⟨"g", by decide⟩ [.atom (.number ⟨.absent, [2], by decide, by decide⟩)])).words :=
    rfl
  have refused := parse_of_open split
  obtain ⟨-, -, completed⟩ := exists_completion_of_incomplete refused rfl
  obtain ⟨completable, kept⟩ := completed _ _ split
  refine ⟨refused, completable, fun continuation tokens parsed => ?_⟩
  obtain ⟨_, more, ⟨_, body, ⟨inner, rfl⟩, rfl⟩, rfl⟩ := kept continuation tokens parsed
  exact ⟨body, inner, more, rfl⟩

end Forth.Syntax
