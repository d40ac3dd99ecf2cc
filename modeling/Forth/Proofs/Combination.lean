/-
This file describes how the outcomes of parsers are combined when the parsers are
put together. An alternative is applied after a failure, and the next part of a
sequence after a match. Both ways to combine outcomes are associative, so it does
not matter how the alternatives of a choice are grouped. Nor does it matter for the
parts of a sequence, except for what is made of the words: the matches of parts
that are grouped are a list of their own.
-/

import Forth.Parser.Basic

namespace Forth.Parser

/-! ### Outcomes one after the other -/

namespace Outcome

/-- An outcome, or another one that follows on its failure. -/
def orElse (outcome : Outcome) (next : Failure → Outcome) : Outcome :=
  match outcome with
  | .failure reason => next reason
  | outcome => outcome

/-- What is done with a match and the words that it leaves. -/
def andThen (outcome : Outcome) (next : Match → List Word → Outcome) : Outcome :=
  match outcome with
  | .success made remainder => next made remainder
  | outcome => outcome

/-- An outcome apart from what is made of the words: the words that are left, or the failure. -/
def verdict (outcome : Outcome) : Outcome :=
  outcome.mapMatch fun _ => .nothing

theorem orElse_assoc (outcome : Outcome) (second third : Failure → Outcome) :
    (outcome.orElse second).orElse third = outcome.orElse fun reason => (second reason).orElse third := by
  cases outcome <;> rfl

/-- After its failure, an outcome does not get any better. -/
theorem orElse_self (outcome : Outcome) : (outcome.orElse fun _ => outcome) = outcome := by
  cases outcome <;> rfl

theorem andThen_assoc (outcome : Outcome) (second third : Match → List Word → Outcome) :
    (outcome.andThen second).andThen third =
      outcome.andThen fun made remainder => (second made remainder).andThen third := by
  cases outcome <;> rfl

theorem verdict_andThen (outcome : Outcome) (next : Match → List Word → Outcome) :
    (outcome.andThen next).verdict =
      outcome.andThen fun made remainder => (next made remainder).verdict := by
  cases outcome <;> rfl

/-- What follows on a match and looks only at the words that are left follows on the verdict. -/
theorem andThen_verdict (outcome : Outcome) (next : List Word → Outcome) :
    (outcome.verdict.andThen fun _ => next) = outcome.andThen fun _ => next := by
  cases outcome <;> rfl

end Outcome

variable {call : String → Nat → List Word → Outcome}

/-! ### Choice -/

theorem applyWith_any (first : Parser) (others : List Parser) (words : List Word) :
    applyWith call (.any first others) words =
      (applyWith call first words).orElse fun last => applyAny call last others words := by
  rw [applyWith]
  rfl

theorem applyAny_cons (last : Failure) (parser : Parser) (others : List Parser)
    (words : List Word) :
    applyAny call last (parser :: others) words =
      (applyWith call parser words).orElse fun last => applyAny call last others words := by
  rw [applyAny]
  rfl

theorem applyAny_append (last : Failure) (first others : List Parser) (words : List Word) :
    applyAny call last (first ++ others) words =
      (applyAny call last first words).orElse fun last => applyAny call last others words := by
  induction first generalizing last with
  | nil =>
    rw [applyAny]
    rfl
  | cons parser first inductionHypothesis =>
    rw [List.cons_append, applyAny_cons, applyAny_cons, Outcome.orElse_assoc]
    simp only [inductionHypothesis]

/-- The first alternatives of a choice may be grouped. -/
theorem applyWith_any_any (first : Parser) (group others : List Parser) (words : List Word) :
    applyWith call (.any (.any first group) others) words =
      applyWith call (.any first (group ++ others)) words := by
  rw [applyWith_any, applyWith_any, applyWith_any, Outcome.orElse_assoc]
  simp only [applyAny_append]

/-- Later alternatives of a choice may be grouped. -/
theorem applyAny_any (last : Failure) (first : Parser) (before group others : List Parser)
    (words : List Word) :
    applyAny call last (before ++ .any first group :: others) words =
      applyAny call last (before ++ first :: group ++ others) words := by
  rw [List.append_assoc, List.cons_append, applyAny_append, applyAny_append]
  simp only [applyAny_cons, applyWith_any, applyAny_append, Outcome.orElse_assoc]

/-! ### Sequence -/

theorem applySequence_cons (collected : List Match) (part : Parser) (parts : List Parser)
    (words : List Word) :
    applySequence call collected (part :: parts) words =
      (applyWith call part words).andThen fun made remainder =>
        applySequence call (if made.isEmpty then collected else made :: collected) parts
          remainder := by
  rw [applySequence]
  rfl

/-- What was made by earlier parts has no influence on the verdict. -/
theorem verdict_applySequence (collected : List Match) (parts : List Parser) (words : List Word) :
    (applySequence call collected parts words).verdict =
      (applyWith call (.sequence parts) words).verdict := by
  rw [applyWith]
  -- Any two lists of earlier matches give the same verdict.
  suffices same : ∀ collected other : List Match,
      (applySequence call collected parts words).verdict =
        (applySequence call other parts words).verdict from same collected []
  induction parts generalizing words with
  | nil =>
    intro collected other
    rw [applySequence, applySequence]
    rfl
  | cons part parts inductionHypothesis =>
    intro collected other
    rw [applySequence_cons, applySequence_cons, Outcome.verdict_andThen, Outcome.verdict_andThen]
    exact congrArg _ (funext fun made => funext fun remainder => inductionHypothesis remainder _ _)

theorem verdict_sequence_cons (part : Parser) (parts : List Parser) (words : List Word) :
    (applyWith call (.sequence (part :: parts)) words).verdict =
      (applyWith call part words).andThen fun _ remainder =>
        (applyWith call (.sequence parts) remainder).verdict := by
  rw [applyWith, applySequence_cons, Outcome.verdict_andThen]
  simp only [verdict_applySequence]

theorem verdict_sequence_append (front back : List Parser) (words : List Word) :
    (applyWith call (.sequence (front ++ back)) words).verdict =
      (applyWith call (.sequence front) words).andThen fun _ remainder =>
        (applyWith call (.sequence back) remainder).verdict := by
  rw [← Outcome.andThen_verdict]
  induction front generalizing words with
  | nil =>
    have nothing : applyWith call (.sequence []) words = .success (.list []) words := by
      rw [applyWith, applySequence]
      rfl
    rw [nothing]
    rfl
  | cons part front inductionHypothesis =>
    rw [List.cons_append, verdict_sequence_cons, verdict_sequence_cons, Outcome.andThen_assoc]
    simp only [inductionHypothesis]

/-- Parts of a sequence may be grouped, as far as the verdict is concerned. -/
theorem verdict_sequence_sequence (before group after : List Parser) (words : List Word) :
    (applyWith call (.sequence (before ++ .sequence group :: after)) words).verdict =
      (applyWith call (.sequence (before ++ group ++ after)) words).verdict := by
  rw [List.append_assoc, verdict_sequence_append, verdict_sequence_append]
  simp only [verdict_sequence_cons, verdict_sequence_append]

end Forth.Parser
