/-
This file says where an error of reading points. The offending word is never behind
the first mistake: it is one of the words that could not be read, and the words in
front of it are the beginning of a program. So whoever looks for the mistake in the
text has to look at this word or further on, never before it.

The words in front of the offending one are statements that were read and an open
definition, or statements alone, and an open definition can always be closed.
-/

import Forth.Proofs.Remainder
import Forth.Proofs.Unfinished

namespace Forth.Syntax

open Forth.Parser (Failure)

/-! ### The words before the offending one -/

/-- Whether no statement stands in the bodies of an open definition and those around it. -/
def OpenDefinition.isBare : OpenDefinition → Bool
  | .unnamed => true
  | .inBody _ body => body.isEmpty
  | .around _ body inner => body.isEmpty && inner.isBare

/-- Words that are refused because of one of them are nothing or an open definition up to this word. If
it is the closing word, no statement stands in the bodies that are open there. -/
theorem Refused.exists_offender {words : List Word} {failure : Failure} {word : Word}
    (refused : Refused words failure) (offending : failure.word? = some word) :
    ∃ front back, words = front ++ word :: back ∧ (front = [] ∨ ∃ opened : OpenDefinition,
      front = opened.words ∧ (word = closingWord → opened.isBare = true)) := by
  induction refused with
  | ended | nameMissing => cases offending
  | unrecognized found rest =>
    cases offending
    exact ⟨[], rest, rfl, .inl rfl⟩
  | nameInvalid found rest =>
    cases offending
    exact ⟨[openingWord], rest, rfl, .inr ⟨.unnamed, rfl, fun _ => rfl⟩⟩
  | unclosed name body remainder reason _ notClosed inductionHypothesis =>
    cases body with
    | nil =>
      rw [unclosedFailure, Parser.word?_bodyFailure] at offending
      obtain ⟨front, back, rfl, rfl | ⟨opened, rfl, bare⟩⟩ := inductionHypothesis offending
      · exact ⟨[openingWord, name.word], back, rfl, .inr ⟨.inBody name [], rfl, fun _ => rfl⟩⟩
      · exact ⟨openingWord :: name.word :: opened.words, back, rfl,
          .inr ⟨.around name [] opened, rfl, bare⟩⟩
    | cons first others =>
      -- After a statement in the body, the offending word is one that does not close it.
      cases remainder with
      | nil => cases offending
      | cons found rest =>
        cases offending
        refine ⟨_, rest, rfl, .inr ⟨.inBody name (first :: others), rfl, ?_⟩⟩
        rintro rfl
        exact absurd ⟨List.cons_ne_nil _ _, rest, rfl⟩ notClosed

/-! ### Beginnings of programs -/

/-- Whether words are the beginning of a text that is a program. -/
def BeginsProgram (words : List Word) : Prop :=
  ∃ whole tokens, parse whole = .ok tokens ∧ words <+: Text.words whole

/-- Statements of a text, alone or with an open definition behind them, begin a program. -/
theorem beginsProgram_of_open {text : String} {before : Program} {front : List Word}
    (among : before.words ++ front ⊆ Text.words text)
    (ends : front = [] ∨ ∃ opened : OpenDefinition, front = opened.words) :
    BeginsProgram (before.words ++ front) := by
  obtain ⟨own, words⟩ := Text.exists_words_eq among
  obtain rfl | ⟨opened, rfl⟩ := ends
  · rw [List.append_nil] at words ⊢
    refine ⟨own, before.tokens, ?_, words ▸ List.prefix_rfl⟩
    rw [parse, words]
    exact parseWords_words before
  · exact ⟨_, _, parse_append_ending words, words ▸ words_isPrefix_append_line own opened.ending⟩

/-- An error of reading with an offending word points to one of the words that the parser for
programs leaves, and the words in front of it begin a program. -/
theorem offender_not_behind_first_mistake {text : String} {failure : Failure} {word : Word}
    (refused : parse text = .error failure) (offending : failure.diagnostic.word = some word) :
    ∃ matched consumed remainder index,
      Parser.apply Grammar.rules Grammar.program (Text.words text) =
        .success matched remainder ∧
      Text.words text = consumed ++ remainder ∧ consumed.length ≤ index ∧
      (Text.words text)[index]? = some word ∧ BeginsProgram ((Text.words text).take index) := by
  obtain ⟨before, remainder, words, -, refusedRemainder⟩ := parse_eq_error_iff.1 refused
  have read : Parser.apply Grammar.rules Grammar.program (Text.words text) =
      .success (.list (before.tokens.map .token)) remainder := by
    rw [apply_program, words, readStatements_append before refusedRemainder]
    rfl
  obtain ⟨front, back, rfl, ends⟩ := refusedRemainder.exists_offender offending
  have split : Text.words text = (before.words ++ front) ++ word :: back := by
    rw [words, List.append_assoc]
  refine ⟨_, before.words, _, (before.words ++ front).length, read, words, ?_, ?_, ?_⟩
  · rw [List.length_append]
    exact Nat.le_add_right _ _
  · rw [split, List.getElem?_append_right (Nat.le_refl _), Nat.sub_self]
    rfl
  · have within : before.words ++ front ⊆ Text.words text := by
      rw [split]
      exact List.subset_append_left _ _
    rw [split, List.take_left]
    exact beginsProgram_of_open within (ends.imp_right (Exists.imp fun _ => And.left))

/-- The mistake in this text is the name of the inner definition. -/
theorem offender_not_behind_first_mistake_nested :
    parse "1 : f : 2 ;" = .error (.invalidName "2") ∧
    (Failure.invalidName "2").diagnostic.word = some "2" ∧
    ∃ matched consumed remainder index,
      Parser.apply Grammar.rules Grammar.program (Text.words "1 : f : 2 ;") =
        .success matched remainder ∧
      Text.words "1 : f : 2 ;" = consumed ++ remainder ∧ consumed.length ≤ index ∧
      (Text.words "1 : f : 2 ;")[index]? = some "2" ∧
      BeginsProgram ((Text.words "1 : f : 2 ;").take index) := by
  have inner : Refused [openingWord, "2", closingWord] (.invalidName "2") :=
    .nameInvalid "2" [closingWord] (by decide)
  have refused : parse "1 : f : 2 ;" = .error (.invalidName "2") :=
    parseWords_append_of_refused [OpenDefinition.filler]
      (.unclosed ⟨"f", by decide⟩ [] _ _ inner nofun) (List.cons_ne_nil _ _)
  exact ⟨refused, rfl, offender_not_behind_first_mistake refused rfl⟩

end Forth.Syntax
