/-
This file says what parsers do to the words that they are given. Whatever a
parser is built from, it reads words from the front and leaves the others as they
are, in their order; and if it fails, the word that it names is one of the given
words. This holds however deep rules call each other, since each call is given
words that an earlier part of the parser has left.

The terminals see to this for one word, and every way to put parsers together
keeps it. A repetition that comes to a halt names the word it stands at, and a
body that is told to be empty has met its closing word.
-/

import Forth.Parser.Basic

namespace Forth.Parser

/-! ### Outcomes that are drawn from the words -/

/-- Whether the offending word of a failure, if it has one, is one of the given words. -/
def Failure.Blames (words : List Word) (failure : Failure) : Prop :=
  ∀ word, failure.word? = some word → word ∈ words

/-- Whether an outcome is drawn from the given words: a match leaves the words from some place on, and
a failure blames one of the words or none. -/
def Outcome.DrawnFrom (words : List Word) : Outcome → Prop
  | .success _ remainder => remainder <:+ words
  | .failure reason => reason.Blames words
  | .fault _ => True

theorem Failure.Blames.of_suffix {words remainder : List Word} {failure : Failure}
    (blames : failure.Blames remainder) (suffix : remainder <:+ words) : failure.Blames words :=
  fun word offending => suffix.subset (blames word offending)

namespace Outcome.DrawnFrom

variable {words : List Word} {outcome : Outcome}

theorem of_suffix {remainder : List Word} (drawn : outcome.DrawnFrom remainder)
    (suffix : remainder <:+ words) : outcome.DrawnFrom words := by
  cases outcome with
  | success made rest => exact List.IsSuffix.trans drawn suffix
  | failure failure => exact Failure.Blames.of_suffix drawn suffix
  | fault fault => trivial

/-- What is made of a match does not matter. -/
theorem mapMatch (drawn : outcome.DrawnFrom words) (transform : Match → Match) :
    (outcome.mapMatch transform).DrawnFrom words := by
  cases outcome <;> exact drawn

/-- A failure may be told in another way if the offending word stays the same. -/
theorem mapFailure {explain : Failure → Failure} (drawn : outcome.DrawnFrom words)
    (sameWord : ∀ failure, (explain failure).word? = failure.word?) :
    (outcome.mapFailure explain).DrawnFrom words := by
  cases outcome with
  | failure failure =>
    intro word offending
    rw [sameWord] at offending
    exact drawn word offending
  | success | fault => exact drawn

/-- What is done after a failure is about the same words. -/
theorem orElse {next : Failure → Outcome} (drawn : outcome.DrawnFrom words)
    (drawnNext : ∀ failure, failure.Blames words → (next failure).DrawnFrom words) :
    (match outcome with
      | .failure reason => next reason
      | outcome => outcome).DrawnFrom words := by
  cases outcome with
  | failure failure => exact drawnNext failure drawn
  | success | fault => exact drawn

/-- What is done after a match is about the words that it leaves. -/
theorem andThen {next : Match → List Word → Outcome} (drawn : outcome.DrawnFrom words)
    (drawnNext : ∀ made remainder, (next made remainder).DrawnFrom remainder) :
    (match outcome with
      | .success made remainder => next made remainder
      | outcome => outcome).DrawnFrom words := by
  cases outcome with
  | success made remainder => exact (drawnNext made remainder).of_suffix drawn
  | failure | fault => exact drawn

end Outcome.DrawnFrom

/-! ### Terminals and repetitions -/

theorem drawnFrom_terminal (terminal : Terminal) (words : List Word) :
    (terminal.apply words).DrawnFrom words := by
  cases words with
  | nil => exact nofun
  | cons word rest =>
    rw [Terminal.apply]
    cases terminal.accept word with
    | some made => exact List.suffix_cons word rest
    | none =>
      intro blamed offending
      have same : word = blamed := by
        unfold Terminal.refuse at offending
        cases refusal : terminal.refusal <;> rw [refusal] at offending <;>
          exact Option.some.inj offending
      rw [← same]
      exact List.mem_cons_self

/-- In the failures of a body, the offending word is that of the statement that is missing. -/
theorem word?_bodyFailure (failure : Failure) : (bodyFailure failure).word? = failure.word? := by
  unfold bodyFailure
  split
  next closing => rw [closing]; rfl
  next =>
    split
    next missing => rw [missing]; rfl
    next => rfl

/-- A repetition leaves words from some place on, and ends because of one of them. -/
theorem drawnFrom_repeatWith {item : List Word → Outcome} {words : List Word}
    {repetition : Repetition} (drawn : ∀ words, (item words).DrawnFrom words)
    (repeated : repeatWith item words = .ok repetition) :
    repetition.remainder <:+ words ∧ repetition.failure.Blames words := by
  fun_induction repeatWith item words generalizing repetition with
  | case1 => cases repeated
  | case2 words failure failed =>
    cases repeated
    have blames := drawn words
    rw [failed] at blames
    exact ⟨List.suffix_rfl, blames⟩
  | case3 => cases repeated
  | case4 words made remainder matched _ rest repeatedRest inductionHypothesis =>
    cases repeated
    have suffix := drawn words
    rw [matched] at suffix
    obtain ⟨within, blames⟩ := inductionHypothesis repeatedRest
    exact ⟨within.trans suffix, blames.of_suffix suffix⟩
  | case5 words =>
    cases repeated
    exact ⟨List.suffix_rfl, fun word next => List.mem_of_mem_head? next⟩

theorem drawnFrom_repetitionOutcome {item : List Word → Outcome} {words : List Word}
    {finish : Repetition → Outcome} (drawn : ∀ words, (item words).DrawnFrom words)
    (finishes : ∀ repetition : Repetition, repetition.remainder <:+ words →
      repetition.failure.Blames words → (finish repetition).DrawnFrom words) :
    (repetitionOutcome finish (repeatWith item words)).DrawnFrom words := by
  cases repeated : repeatWith item words with
  | error fault => trivial
  | ok repetition =>
    obtain ⟨suffix, blames⟩ := drawnFrom_repeatWith drawn repeated
    exact finishes repetition suffix blames

theorem drawnFrom_outcomeOnce {words : List Word} {repetition : Repetition}
    (suffix : repetition.remainder <:+ words) (blames : repetition.failure.Blames words) :
    repetition.outcomeOnce.DrawnFrom words := by
  unfold Repetition.outcomeOnce
  split
  next => exact blames
  next => exact suffix

/-! ### All parsers -/

section Parsers

variable {call : String → Nat → List Word → Outcome}

mutual

/-- If the rules that a parser refers to have outcomes drawn from their words, so has the parser. -/
theorem drawnFrom_applyWith (drawn : ∀ label index words, (call label index words).DrawnFrom words) :
    ∀ (parser : Parser) (words : List Word), (applyWith call parser words).DrawnFrom words
  | .terminal reader, words => by
    rw [applyWith]
    exact drawnFrom_terminal reader words
  | .undescribed, words => by
    rw [applyWith]
    trivial
  | .undescribedWord, [] => by
    rw [applyWith]
    exact nofun
  | .undescribedWord, _ :: _ => by
    rw [applyWith]
    trivial
  | .any first others, words => by
    rw [applyWith]
    exact (drawnFrom_applyWith drawn first words).orElse fun _ blames =>
      drawnFrom_applyAny drawn blames others
  | .sequence parts, words => by
    rw [applyWith]
    exact drawnFrom_applySequence drawn [] parts words
  | .repeated item, words => by
    rw [applyWith]
    exact drawnFrom_repetitionOutcome (drawnFrom_applyWith drawn item) fun _ suffix _ => suffix
  | .repeatedOnce item, words => by
    rw [applyWith]
    exact drawnFrom_repetitionOutcome (drawnFrom_applyWith drawn item) fun _ =>
      drawnFrom_outcomeOnce
  | .body item, words => by
    rw [applyWith]
    exact (drawnFrom_repetitionOutcome (drawnFrom_applyWith drawn item) fun _ =>
      drawnFrom_outcomeOnce).mapFailure word?_bodyFailure
  | .discard item, words => by
    rw [applyWith]
    exact (drawnFrom_applyWith drawn item words).mapMatch _
  | .transform item function, words => by
    rw [applyWith]
    exact (drawnFrom_applyWith drawn item words).mapMatch function
  | .rule label index, words => by
    rw [applyWith]
    exact drawn label index words

/-- The alternatives of a choice are all applied to the same words. -/
theorem drawnFrom_applyAny (drawn : ∀ label index words, (call label index words).DrawnFrom words)
    {last : Failure} {words : List Word} (blames : last.Blames words) :
    ∀ (others : List Parser), (applyAny call last others words).DrawnFrom words
  | [] => by
    rw [applyAny]
    exact blames
  | parser :: others => by
    rw [applyAny]
    exact (drawnFrom_applyWith drawn parser words).orElse fun _ blames =>
      drawnFrom_applyAny drawn blames others

/-- Each part of a sequence is applied to what the part before has left. -/
theorem drawnFrom_applySequence
    (drawn : ∀ label index words, (call label index words).DrawnFrom words) :
    ∀ (collected : List Match) (parts : List Parser) (words : List Word),
      (applySequence call collected parts words).DrawnFrom words
  | collected, [], words => by
    rw [applySequence]
    exact List.suffix_rfl
  | collected, part :: parts, words => by
    rw [applySequence]
    exact (drawnFrom_applyWith drawn part words).andThen fun _ remainder =>
      drawnFrom_applySequence drawn _ parts remainder

end

end Parsers

/-! ### Rules that call each other -/

theorem drawnFrom_callRule (rules : Rules) (room : Nat) (label : String) (index : Nat)
    (words : List Word) : (callRule rules room label index words).DrawnFrom words := by
  induction room generalizing label index words with
  | zero =>
    unfold callRule
    cases rules.definition? index <;> trivial
  | succ room inductionHypothesis =>
    unfold callRule
    cases rules.definition? index with
    | none => trivial
    | some parser => exact drawnFrom_applyWith inductionHypothesis parser words

/-- However many calls of rules there may be inside one another, a parser's outcome is drawn from the
words. -/
theorem drawnFrom_applyWithin (rules : Rules) (room : Nat) (parser : Parser) (words : List Word) :
    (applyWithin rules room parser words).DrawnFrom words :=
  drawnFrom_applyWith (drawnFrom_callRule rules room) parser words

/-! ### Whether something was read -/

/-- A match that is drawn from the words leaves fewer of them if and only if it leaves others than all of
them. -/
theorem Outcome.DrawnFrom.length_lt_iff_ne {made : Match} {words remainder : List Word}
    (drawn : (success made remainder).DrawnFrom words) :
    remainder.length < words.length ↔ remainder ≠ words := by
  have suffix : remainder <:+ words := drawn
  constructor
  · rintro shorter rfl
    exact Nat.lt_irrefl _ shorter
  · intro other
    exact Nat.lt_of_le_of_ne suffix.length_le fun same => other (suffix.eq_of_length same)

/-- A repetition may also compare the words that a match has left with the words before it, rather than
their numbers. For every parser it does the same then. -/
theorem repeatWith_applyWithin (rules : Rules) (room : Nat) (item : Parser) (words : List Word) :
    repeatWith (applyWithin rules room item) words =
      match applyWithin rules room item words with
      | .fault fault => .error fault
      | .failure failure => .ok ⟨[], words, failure⟩
      | .success made remainder =>
        if remainder = words then .ok ⟨[], words, .noProgress words.head?⟩
        else
          match repeatWith (applyWithin rules room item) remainder with
          | .error fault => .error fault
          | .ok rest => .ok { rest with members := made :: rest.members } := by
  have drawn := drawnFrom_applyWithin rules room item words
  rw [repeatWith]
  cases applied : applyWithin rules room item words with
  | fault fault => rfl
  | failure failure => rfl
  | success made remainder =>
    rw [applied] at drawn
    by_cases unread : remainder = words
    · have notShorter : ¬ remainder.length < words.length :=
        fun shorter => drawn.length_lt_iff_ne.1 shorter unread
      exact (if_neg notShorter).trans (if_pos unread).symm
    · have shorter : remainder.length < words.length := drawn.length_lt_iff_ne.2 unread
      exact (if_pos shorter).trans (if_neg unread).symm

/-! ### What is left, and what is blamed -/

theorem Failure.Blames.word?_eq {words : List Word} {failure : Failure}
    (blames : failure.Blames words) :
    failure.word? = none ∨ ∃ word ∈ words, failure.word? = some word := by
  cases offending : failure.word? with
  | none => exact .inl rfl
  | some word => exact .inr ⟨word, blames word offending, rfl⟩

/-- Every parser, with any rules, leaves a suffix of the words if it matches, so what it has read is a
prefix; and if it fails, there is no offending word or it is one of the words. This holds whether calls
of rules inside one another are bounded as they have to be for an answer, or by any other number. -/
theorem remainder_isSuffix_and_word_mem (rules : Rules) (parser : Parser) (words : List Word) :
    (∀ made remainder, apply rules parser words = .success made remainder → remainder <:+ words) ∧
    (∀ failure, apply rules parser words = .failure failure →
      failure.word? = none ∨ ∃ word ∈ words, failure.word? = some word) ∧
    ∀ room,
      (∀ made remainder, applyWithin rules room parser words = .success made remainder →
        remainder <:+ words) ∧
      (∀ failure, applyWithin rules room parser words = .failure failure →
        failure.word? = none ∨ ∃ word ∈ words, failure.word? = some word) := by
  have drawn (room : Nat) := drawnFrom_applyWithin rules room parser words
  have suffix (room : Nat) (made : Match) (remainder : List Word)
      (applied : applyWithin rules room parser words = .success made remainder) :
      remainder <:+ words := by
    have outcome := drawn room
    rwa [applied] at outcome
  have word (room : Nat) (failure : Failure)
      (applied : applyWithin rules room parser words = .failure failure) :
      failure.word? = none ∨ ∃ word ∈ words, failure.word? = some word := by
    have outcome := drawn room
    rw [applied] at outcome
    exact Failure.Blames.word?_eq outcome
  exact ⟨suffix _, word _, fun room => ⟨suffix room, word room⟩⟩

end Forth.Parser
