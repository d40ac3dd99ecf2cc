/-
This file says when the parser tells that the body of a definition is empty. It does
so exactly if the closing word stands where definitions are open without a statement
in any of their bodies.

If the innermost of them has its name, its body is empty indeed: a colon, the name and
the closing word stand next to each other. But it may also be that the closing word
stands in the place of the name. At the top level this is told as a name which is not
valid. Within the empty body of another definition it is taken for the end of that
body, and then it is the only name that is told in this way. Every other name which is
not valid is told as such, or as a body that is not closed if a statement comes
before.
-/

import Forth.Proofs.FirstMistake

namespace Forth.Syntax

open Forth.Grammar (isName)
open Forth.Parser (Failure)

/-! ### The message -/

/-- No other failure is told as an empty body. -/
theorem message_eq_iff {failure : Failure} :
    failure.message = "Definition body can not be empty." ↔ failure = .emptyBody := by
  refine ⟨fun same => ?_, fun same => same ▸ rfl⟩
  have first : failure.message.toList.head? = some 'D' := by rw [same]; rfl
  cases failure with
  | emptyBody => rfl
  | noProgress => exact absurd (show "no progress".toList.head? = some 'D' from first) (by decide)
  | ended | unexpected | unrecognized | invalidName =>
    -- The message is put together from texts of which the first begins with another letter.
    change (_ ++ _ ++ _ : String).toList.head? = some 'D' at first
    simp at first

/-- A body is told to be empty if the closing word is what no statement begins with. -/
theorem bodyFailure_eq_emptyBody_iff {failure : Failure} :
    Parser.bodyFailure failure = .emptyBody ↔ failure.word? = some closingWord := by
  constructor
  · intro told
    rw [← Parser.word?_bodyFailure, told]
    rfl
  · intro closing
    rw [Parser.bodyFailure, if_pos closing]

/-! ### The closing word in an open definition -/

namespace OpenDefinition

/-- Where the closing word comes in a definition that is open without a statement, it is the reason for
the refusal. -/
theorem exists_refused_of_isBare {opened : OpenDefinition} (bare : opened.isBare = true)
    (rest : List Word) :
    ∃ failure, Refused (opened.words ++ closingWord :: rest) failure ∧
      failure.word? = some closingWord ∧ (opened ≠ .unnamed → failure = .emptyBody) := by
  induction opened with
  | unnamed => exact ⟨_, .nameInvalid closingWord rest (by decide), rfl, fun named => absurd rfl named⟩
  | inBody name body =>
    obtain rfl := List.isEmpty_iff.1 bare
    have reason : Refused (closingWord :: rest) (.unrecognized closingWord) :=
      .unrecognized closingWord rest atomToken?_closingWord (by decide)
    exact ⟨.emptyBody, .unclosed name [] _ _ reason nofun, rfl, fun _ => rfl⟩
  | around name body inner inductionHypothesis =>
    rw [isBare, Bool.and_eq_true, List.isEmpty_iff] at bare
    obtain ⟨rfl, innerBare⟩ := bare
    obtain ⟨reason, refused, closing, -⟩ := inductionHypothesis innerBare
    have told : Parser.bodyFailure reason = .emptyBody := bodyFailure_eq_emptyBody_iff.2 closing
    exact ⟨.emptyBody, told ▸ .unclosed name [] _ _ refused nofun, rfl, fun _ => rfl⟩

/-- Whether the innermost definition has no name yet. -/
def awaitsName : OpenDefinition → Bool
  | .unnamed => true
  | .inBody _ _ => false
  | .around _ _ inner => inner.awaitsName

/-- A definition that is open without a statement, and has its name, ends in a colon and this name. -/
theorem exists_words_of_isBare {opened : OpenDefinition} (bare : opened.isBare = true)
    (named : opened.awaitsName = false) :
    ∃ (front : List Word) (name : Name), opened.words = front ++ [openingWord, name.word] := by
  induction opened with
  | unnamed => cases named
  | inBody name body =>
    obtain rfl := List.isEmpty_iff.1 bare
    exact ⟨[], name, rfl⟩
  | around name body inner inductionHypothesis =>
    rw [isBare, Bool.and_eq_true, List.isEmpty_iff] at bare
    obtain ⟨rfl, innerBare⟩ := bare
    obtain ⟨front, innerName, words⟩ := inductionHypothesis innerBare named
    refine ⟨openingWord :: name.word :: front, innerName, ?_⟩
    rw [OpenDefinition.words, words]
    rfl

/-! ### Names that are not valid -/

/-- How an open definition is refused that goes on with a word which is not the name it awaits. -/
def misnamedFailure (word : Word) : OpenDefinition → Failure
  | .around _ body inner => unclosedFailure body inner.words (inner.misnamedFailure word)
  | .unnamed | .inBody _ _ => .invalidName word

theorem refused_of_awaitsName {opened : OpenDefinition} {word : Word}
    (awaits : opened.awaitsName = true) (invalid : isName word = false) (rest : List Word) :
    Refused (opened.words ++ word :: rest) (opened.misnamedFailure word) := by
  induction opened with
  | unnamed => exact .nameInvalid word rest invalid
  | inBody => cases awaits
  | around name body inner inductionHypothesis =>
    obtain ⟨others, words⟩ := inner.exists_words
    have refused := Refused.unclosed name body _ _ (inductionHypothesis awaits)
      (by rw [words]; exact not_closed_cons (by decide) body _)
    have told : unclosedFailure body (inner.words ++ word :: rest) (inner.misnamedFailure word) =
        (around name body inner).misnamedFailure word := by
      rw [misnamedFailure, words]
      cases body <;> rfl
    rw [told] at refused
    rw [OpenDefinition.words, List.cons_append, List.cons_append, List.append_assoc]
    exact refused

/-- Only the closing word itself can be told as the closing word in the place of a name. -/
theorem word?_misnamedFailure {opened : OpenDefinition} {word : Word}
    (closing : (opened.misnamedFailure word).word? = some closingWord) :
    word = closingWord ∧ (opened.awaitsName = true → opened.isBare = true) := by
  induction opened with
  | unnamed => exact ⟨Option.some.inj closing, fun _ => rfl⟩
  | inBody => exact ⟨Option.some.inj closing, nofun⟩
  | around name body inner inductionHypothesis =>
    cases body with
    | nil =>
      rw [misnamedFailure, unclosedFailure, Parser.word?_bodyFailure] at closing
      exact inductionHypothesis closing
    | cons first others =>
      obtain ⟨rest, words⟩ := inner.exists_words
      rw [misnamedFailure, words] at closing
      exact absurd (Option.some.inj closing) (by decide)

end OpenDefinition

/-! ### Texts that are told to have an empty body -/

/-- Words in which the closing word follows open definitions without a statement. The innermost of them
has its name, or it is within another one. -/
def ClosesBare (words : List Word) : Prop :=
  ∃ (before : Program) (opened : OpenDefinition) (rest : List Word),
    words = before.words ++ (opened.words ++ closingWord :: rest) ∧
    opened.isBare = true ∧ opened ≠ .unnamed

/-- Words in which the closing word stands in the place of a name, where the definition that awaits this
name is the first thing in the body of another. -/
def ClosesForName (words : List Word) : Prop :=
  ∃ (before : Program) (opened : OpenDefinition) (rest : List Word),
    words = before.words ++ (opened.words ++ closingWord :: rest) ∧
    opened.isBare = true ∧ opened ≠ .unnamed ∧ opened.awaitsName = true

/-- Whether a colon, a name and the closing word stand next to each other. -/
def HasEmptyBody (words : List Word) : Prop :=
  ∃ name : Name, [openingWord, name.word, closingWord] <:+: words

theorem parse_eq_error_emptyBody_iff {text : String} :
    parse text = .error .emptyBody ↔ ClosesBare (Text.words text) := by
  constructor
  · intro told
    obtain ⟨before, remainder, words, -, refused⟩ := parse_eq_error_iff.1 told
    obtain ⟨front, rest, rfl, rfl | ⟨opened, rfl, bare⟩⟩ := refused.exists_offender rfl
    · cases refused.unique (.unrecognized closingWord rest atomToken?_closingWord (by decide))
    · refine ⟨before, opened, rest, words, bare rfl, ?_⟩
      rintro rfl
      cases refused.unique (.nameInvalid closingWord rest (by decide))
  · rintro ⟨before, opened, rest, words, bare, notUnnamed⟩
    obtain ⟨failure, refused, -, told⟩ := OpenDefinition.exists_refused_of_isBare bare rest
    obtain rfl := told notUnnamed
    exact parse_eq_error_iff.2 ⟨before, _, words,
      List.append_ne_nil_of_left_ne_nil opened.words_ne_nil _, refused⟩

theorem ClosesBare.hasEmptyBody {words : List Word} (closes : ClosesBare words)
    (notForName : ¬ ClosesForName words) : HasEmptyBody words := by
  obtain ⟨before, opened, rest, rfl, bare, notUnnamed⟩ := closes
  cases awaits : opened.awaitsName with
  | true => exact absurd ⟨before, opened, rest, rfl, bare, notUnnamed, awaits⟩ notForName
  | false =>
    obtain ⟨front, name, words⟩ := OpenDefinition.exists_words_of_isBare bare awaits
    refine ⟨name, before.words ++ front, rest, ?_⟩
    simp only [words, List.append_assoc, List.cons_append, List.nil_append]

/-- A name that is not valid is told as an empty body only if it is the closing word, within the empty
body of another definition. -/
theorem closesForName_of_misnamed {text : String} {before : Program} {opened : OpenDefinition}
    {word : Word} {rest : List Word}
    (words : Text.words text = before.words ++ (opened.words ++ word :: rest))
    (awaits : opened.awaitsName = true) (invalid : isName word = false)
    (told : parse text = .error .emptyBody) : ClosesForName (Text.words text) := by
  have misnamed : parse text = .error (opened.misnamedFailure word) :=
    parse_eq_error_iff.2 ⟨before, _, words,
      List.append_ne_nil_of_left_ne_nil opened.words_ne_nil _,
      OpenDefinition.refused_of_awaitsName awaits invalid rest⟩
  have failure : opened.misnamedFailure word = .emptyBody :=
    Except.error.inj (misnamed.symm.trans told)
  have closing : (opened.misnamedFailure word).word? = some closingWord := by
    rw [failure]
    rfl
  obtain ⟨rfl, bare⟩ := OpenDefinition.word?_misnamedFailure closing
  refine ⟨before, opened, rest, words, bare awaits, ?_, awaits⟩
  rintro rfl
  cases failure

/-- The exact extent to which an empty body is told truly. The message is given if and only if the closing
word follows open definitions without a statement. Unless it stands in the place of a name there, a
colon, a name and the closing word stand next to each other in the text, and no name that is not valid,
at any level, is told in this way. If it stands in the place of a name, that name is. -/
theorem emptyBody_told_truly_iff (text : String) :
    ((∃ failure, parse text = .error failure ∧
        failure.message = "Definition body can not be empty.") ↔ ClosesBare (Text.words text)) ∧
    (¬ ClosesForName (Text.words text) → ∀ failure, parse text = .error failure →
      failure.message = "Definition body can not be empty." → HasEmptyBody (Text.words text)) ∧
    ((∀ (before : Program) (opened : OpenDefinition) (word : Word) (rest : List Word)
        (failure : Failure), Text.words text = before.words ++ (opened.words ++ word :: rest) →
        opened.awaitsName = true → isName word = false → parse text = .error failure →
        failure.message ≠ "Definition body can not be empty.") ↔
      ¬ ClosesForName (Text.words text)) := by
  refine ⟨⟨?_, fun closes => ?_⟩, ?_, fun never closes => ?_, ?_⟩
  · rintro ⟨failure, refused, told⟩
    obtain rfl := message_eq_iff.1 told
    exact parse_eq_error_emptyBody_iff.1 refused
  · exact ⟨.emptyBody, parse_eq_error_emptyBody_iff.2 closes, rfl⟩
  · intro notForName failure refused told
    obtain rfl := message_eq_iff.1 told
    exact (parse_eq_error_emptyBody_iff.1 refused).hasEmptyBody notForName
  · obtain ⟨before, opened, rest, words, bare, notUnnamed, awaits⟩ := closes
    have refused := parse_eq_error_emptyBody_iff.2 ⟨before, opened, rest, words, bare, notUnnamed⟩
    exact never before opened closingWord rest .emptyBody words awaits (by decide) refused rfl
  · intro notForName before opened word rest failure words awaits invalid refused told
    obtain rfl := message_eq_iff.1 told
    exact notForName (closesForName_of_misnamed words awaits invalid refused)

/-- A text that is told to have an empty body, although the closing word stands in it only in the place
of a name. -/
theorem exists_emptyBody_told_untruly :
    ¬ ∀ (text : String) (failure : Failure), parse text = .error failure →
      failure.message = "Definition body can not be empty." → HasEmptyBody (Text.words text) := by
  intro always
  have words : Text.words ": f : ;" = [openingWord, "f", openingWord, closingWord] := rfl
  have closes : ClosesBare (Text.words ": f : ;") :=
    ⟨[], .around ⟨"f", by decide⟩ [] .unnamed, [], rfl, rfl, nofun⟩
  obtain ⟨name, front, back, same⟩ := always _ _ (parse_eq_error_emptyBody_iff.2 closes) rfl
  rw [words] at same
  -- The three words would begin at the first word or at the second.
  rcases front with _ | ⟨first, _ | ⟨second, front⟩⟩
  · injection same with _ same
    injection same with _ same
    exact absurd (List.cons.inj same).1 (by decide)
  · injection same with _ same
    exact absurd (List.cons.inj same).1 (by decide)
  · have length := congrArg List.length same
    simp only [List.length_append, List.length_cons, List.length_nil] at length
    omega

end Forth.Syntax
