/-
This file says that the answer of a parser does not depend on how many calls of
rules inside one another are allowed, as soon as they are enough: more of them
never change an answer, and the number that `apply` allows is always enough if any
number is. So a parser that does not answer has a rule that is not described, or
goes on for ever.

All calls that a parser makes are about suffixes of its words. Consider the pairs of
a rule and a suffix for which the rule answers with some room for calls inside it.
With more room there are no fewer of them, and if one more call adds none, no
further call ever does, since what a rule answers depends on what the rules that it
calls answer. There are only so many pairs, so it is over after as many calls.
-/

import Forth.Proofs.Combination
import Forth.Proofs.Remainder
import Mathlib.Data.Finset.Card
import Mathlib.Data.Finset.Prod
import Mathlib.Order.Monotone.Basic

namespace Forth.Parser

/-! ### Outcomes that persist -/

/-- Whether there is an answer: a match, or a failure. -/
def Outcome.Returns : Outcome → Prop
  | .fault _ => False
  | _ => True

instance : DecidablePred Outcome.Returns
  | .success _ _ | .failure _ => isTrue trivial
  | .fault _ => isFalse id

/-- Whether an outcome, if it is an answer, is also the answer of another parser. -/
def Outcome.Persists (outcome other : Outcome) : Prop :=
  outcome.Returns → other = outcome

namespace Outcome.Persists

variable {outcome other : Outcome}

theorem mapMatch (persists : outcome.Persists other) (transform : Match → Match) :
    (outcome.mapMatch transform).Persists (other.mapMatch transform) := by
  intro returns
  cases outcome with
  | success | failure => rw [persists trivial]
  | fault => cases returns

theorem mapFailure (persists : outcome.Persists other) (explain : Failure → Failure) :
    (outcome.mapFailure explain).Persists (other.mapFailure explain) := by
  intro returns
  cases outcome with
  | success | failure => rw [persists trivial]
  | fault => cases returns

/-- What follows on a failure persists if the failure does. -/
theorem orElse {next nextToo : Failure → Outcome} (persists : outcome.Persists other)
    (persistsNext : ∀ failure, (next failure).Persists (nextToo failure)) :
    (outcome.orElse next).Persists (other.orElse nextToo) := by
  intro returns
  cases outcome with
  | success =>
    rw [persists trivial]
    rfl
  | failure failure =>
    rw [persists trivial]
    exact persistsNext failure returns
  | fault => cases returns

/-- What follows on a match persists if the match does. -/
theorem andThen {next nextToo : Match → List Word → Outcome} (persists : outcome.Persists other)
    (persistsNext : ∀ made remainder, outcome = .success made remainder →
      (next made remainder).Persists (nextToo made remainder)) :
    (outcome.andThen next).Persists (other.andThen nextToo) := by
  intro returns
  cases outcome with
  | success made remainder =>
    rw [persists trivial]
    exact persistsNext made remainder rfl returns
  | failure =>
    rw [persists trivial]
    rfl
  | fault => cases returns

end Outcome.Persists

/-- A repetition comes out alike if its parser answers alike from every place on. -/
theorem repeatWith_of_persists {item itemToo : List Word → Outcome} {words : List Word}
    {repetition : Repetition} (drawn : ∀ words, (item words).DrawnFrom words)
    (persists : ∀ rest, rest <:+ words → (item rest).Persists (itemToo rest))
    (repeated : repeatWith item words = .ok repetition) :
    repeatWith itemToo words = .ok repetition := by
  fun_induction repeatWith item words generalizing repetition with
  | case1 => cases repeated
  | case2 words failure failed =>
    have same := persists words List.suffix_rfl
    rw [failed] at same
    rw [repeatWith, same trivial]
    exact repeated
  | case3 => cases repeated
  | case4 words made remainder matched shorter rest repeatedRest inductionHypothesis =>
    have same := persists words List.suffix_rfl
    have suffix := drawn words
    rw [matched] at same suffix
    have later := inductionHypothesis (fun rest within => persists rest (within.trans suffix))
      repeatedRest
    rw [repeatWith, same trivial]
    simp only [if_pos shorter, later]
    exact repeated
  | case5 words made remainder matched notShorter =>
    have same := persists words List.suffix_rfl
    rw [matched] at same
    rw [repeatWith, same trivial]
    simp only [if_neg notShorter]
    exact repeated

theorem repetitionOutcome_persists {item itemToo : List Word → Outcome} {words : List Word}
    (drawn : ∀ words, (item words).DrawnFrom words)
    (persists : ∀ rest, rest <:+ words → (item rest).Persists (itemToo rest))
    (finish : Repetition → Outcome) :
    (repetitionOutcome finish (repeatWith item words)).Persists
      (repetitionOutcome finish (repeatWith itemToo words)) := by
  intro returns
  cases repeated : repeatWith item words with
  | error fault =>
    rw [repeated] at returns
    cases returns
  | ok repetition => rw [repeatWith_of_persists drawn persists repeated]

/-! ### What a parser's answer depends on -/

section Parsers

variable {call callToo : String → Nat → List Word → Outcome}

mutual

/-- If the answers of all rules persist from every place in the words on, so does the answer of every
parser. -/
theorem applyWith_persists (drawn : ∀ label index words, (call label index words).DrawnFrom words) :
    ∀ (parser : Parser) (words : List Word),
      (∀ label index rest, rest <:+ words →
        (call label index rest).Persists (callToo label index rest)) →
      (applyWith call parser words).Persists (applyWith callToo parser words)
  | .terminal _, _, _ => by
    rw [applyWith, applyWith]
    exact fun _ => rfl
  | .undescribed, _, _ => by
    rw [applyWith, applyWith]
    exact fun _ => rfl
  | .undescribedWord, [], _ => by
    rw [applyWith, applyWith]
    exact fun _ => rfl
  | .undescribedWord, _ :: _, _ => by
    rw [applyWith, applyWith]
    exact fun _ => rfl
  | .any first others, words, persists => by
    rw [applyWith_any, applyWith_any]
    exact (applyWith_persists drawn first words persists).orElse fun last =>
      applyAny_persists drawn last others words persists
  | .sequence parts, words, persists => by
    rw [applyWith, applyWith]
    exact applySequence_persists drawn [] parts words persists
  | .repeated item, words, persists => by
    rw [applyWith, applyWith]
    exact repetitionOutcome_persists (drawnFrom_applyWith drawn item) (fun rest within =>
      applyWith_persists drawn item rest fun label index later inside =>
        persists label index later (inside.trans within)) _
  | .repeatedOnce item, words, persists => by
    rw [applyWith, applyWith]
    exact repetitionOutcome_persists (drawnFrom_applyWith drawn item) (fun rest within =>
      applyWith_persists drawn item rest fun label index later inside =>
        persists label index later (inside.trans within)) _
  | .body item, words, persists => by
    rw [applyWith, applyWith]
    exact (repetitionOutcome_persists (drawnFrom_applyWith drawn item) (fun rest within =>
      applyWith_persists drawn item rest fun label index later inside =>
        persists label index later (inside.trans within)) _).mapFailure bodyFailure
  | .discard item, words, persists => by
    rw [applyWith, applyWith]
    exact (applyWith_persists drawn item words persists).mapMatch _
  | .transform item function, words, persists => by
    rw [applyWith, applyWith]
    exact (applyWith_persists drawn item words persists).mapMatch function
  | .rule label index, words, persists => by
    rw [applyWith, applyWith]
    exact persists label index words List.suffix_rfl

theorem applyAny_persists (drawn : ∀ label index words, (call label index words).DrawnFrom words)
    (last : Failure) :
    ∀ (others : List Parser) (words : List Word),
      (∀ label index rest, rest <:+ words →
        (call label index rest).Persists (callToo label index rest)) →
      (applyAny call last others words).Persists (applyAny callToo last others words)
  | [], _, _ => by
    rw [applyAny, applyAny]
    exact fun _ => rfl
  | parser :: others, words, persists => by
    rw [applyAny_cons, applyAny_cons]
    exact (applyWith_persists drawn parser words persists).orElse fun last =>
      applyAny_persists drawn last others words persists

/-- The later parts of a sequence are applied to a suffix of the words. -/
theorem applySequence_persists
    (drawn : ∀ label index words, (call label index words).DrawnFrom words)
    (collected : List Match) :
    ∀ (parts : List Parser) (words : List Word),
      (∀ label index rest, rest <:+ words →
        (call label index rest).Persists (callToo label index rest)) →
      (applySequence call collected parts words).Persists
        (applySequence callToo collected parts words)
  | [], _, _ => by
    rw [applySequence, applySequence]
    exact fun _ => rfl
  | part :: parts, words, persists => by
    rw [applySequence_cons, applySequence_cons]
    refine (applyWith_persists drawn part words persists).andThen fun made remainder matched => ?_
    have suffix := drawnFrom_applyWith drawn part words
    rw [matched] at suffix
    exact applySequence_persists drawn _ parts remainder fun label index rest within =>
      persists label index rest (within.trans suffix)

end

end Parsers

/-! ### More room -/

/-- The label of a rule is only for explanations. -/
theorem callRule_returns_iff (rules : Rules) (room : Nat) (label other : String) (index : Nat)
    (words : List Word) :
    (callRule rules room label index words).Returns ↔
      (callRule rules room other index words).Returns := by
  unfold callRule
  cases rules.definition? index with
  | none => rfl
  | some parser => cases room <;> rfl

/-- Room for one more call does not change an answer. -/
theorem callRule_persists_succ (rules : Rules) (room : Nat) (label : String) (index : Nat)
    (words : List Word) :
    (callRule rules room label index words).Persists
      (callRule rules (room + 1) label index words) := by
  induction room generalizing label index words with
  | zero =>
    intro returns
    unfold callRule at returns
    cases found : rules.definition? index <;> rw [found] at returns <;> cases returns
  | succ room inductionHypothesis =>
    unfold callRule
    cases rules.definition? index with
    | none => exact fun _ => rfl
    | some parser =>
      exact applyWith_persists (drawnFrom_callRule rules room) parser words
        fun label index rest _ => inductionHypothesis label index rest

theorem callRule_persists_of_le (rules : Rules) {room more : Nat} (atLeast : room ≤ more)
    (label : String) (index : Nat) (words : List Word) :
    (callRule rules room label index words).Persists (callRule rules more label index words) := by
  induction more, atLeast using Nat.le_induction with
  | base => exact fun _ => rfl
  | succ more atLeast inductionHypothesis =>
    intro returns
    have same := inductionHypothesis returns
    rw [← same] at returns ⊢
    exact callRule_persists_succ rules more label index words returns

/-! ### Enough room -/

/-- The rules that answer with some room for calls inside them, each with the number of words that are
in front of those that it is given. -/
def answered (rules : Rules) (words : List Word) (room : Nat) : Finset (Nat × Nat) :=
  (Finset.range rules.length ×ˢ Finset.range (words.length + 1)).filter fun place =>
    (callRule rules room "" place.1 (words.drop place.2)).Returns

theorem card_answered_le (rules : Rules) (words : List Word) (room : Nat) :
    (answered rules words room).card ≤ sufficientRoom rules words := by
  calc (answered rules words room).card
      ≤ (Finset.range rules.length ×ˢ Finset.range (words.length + 1)).card :=
        Finset.card_filter_le _ _
    _ = sufficientRoom rules words := by
        rw [Finset.card_product, Finset.card_range, Finset.card_range, sufficientRoom]

/-- A rule that answers has a definition. -/
theorem index_lt_of_returns {rules : Rules} {room : Nat} {label : String} {index : Nat}
    {words : List Word} (returns : (callRule rules room label index words).Returns) :
    index < rules.length := by
  by_contra outside
  have missing : rules.definition? index = none := by
    rw [Rules.definition?, List.getElem?_eq_none (Nat.not_lt.1 outside)]
    rfl
  unfold callRule at returns
  rw [missing] at returns
  exact returns

/-- A place stands for a rule and a suffix of the words. -/
theorem mem_answered_of_suffix {rules : Rules} {words rest : List Word} {room : Nat}
    (label : String) {index : Nat} (within : rest <:+ words) :
    (index, words.length - rest.length) ∈ answered rules words room ↔
      (callRule rules room label index rest).Returns := by
  have place : words.drop (words.length - rest.length) = rest :=
    (List.suffix_iff_eq_drop.1 within).symm
  rw [answered, Finset.mem_filter, Finset.mem_product, Finset.mem_range, Finset.mem_range, place,
    callRule_returns_iff rules room "" label]
  exact ⟨And.right, fun returns => ⟨⟨index_lt_of_returns returns, by omega⟩, returns⟩⟩

theorem answered_subset_succ (rules : Rules) (words : List Word) (room : Nat) :
    answered rules words room ⊆ answered rules words (room + 1) := by
  refine Finset.monotone_filter_right _ fun place _ returns => ?_
  rw [callRule_persists_succ rules room "" place.1 (words.drop place.2) returns]
  exact returns

/-- If two amounts of room give answers for the same places, then all answers of the greater one are
those of the smaller one. -/
theorem callRule_persists_of_answered {rules : Rules} {words : List Word} {room more : Nat}
    (atLeast : room ≤ more) (same : answered rules words more ⊆ answered rules words room)
    (label : String) (index : Nat) (rest : List Word) (within : rest <:+ words) :
    (callRule rules more label index rest).Persists (callRule rules room label index rest) := by
  intro returns
  have already := (mem_answered_of_suffix label within).1
    (same ((mem_answered_of_suffix label within).2 returns))
  exact (callRule_persists_of_le rules atLeast label index rest already).symm

/-- If one more call gives no answer for a new place, neither does another one after it. -/
theorem answered_stays {rules : Rules} {words : List Word} {room : Nat}
    (same : answered rules words (room + 1) ⊆ answered rules words room) :
    answered rules words (room + 2) ⊆ answered rules words (room + 1) := by
  refine Finset.monotone_filter_right _ fun place _ returns => ?_
  have persists : (callRule rules (room + 2) "" place.1 (words.drop place.2)).Persists
      (callRule rules (room + 1) "" place.1 (words.drop place.2)) := by
    unfold callRule
    cases rules.definition? place.1 with
    | none => exact fun _ => rfl
    | some parser =>
      exact applyWith_persists (drawnFrom_callRule rules (room + 1)) parser _
        fun label index rest within =>
          callRule_persists_of_answered (Nat.le_succ room) same label index rest
            (within.trans (List.drop_suffix _ _))
  rw [persists returns]
  exact returns

/-- With as many calls inside one another as there are places, every place is answered that is ever
answered. -/
theorem answered_subset_sufficientRoom (rules : Rules) (words : List Word) (room : Nat) :
    answered rules words room ⊆ answered rules words (sufficientRoom rules words) := by
  have grows : Monotone (answered rules words) :=
    monotone_nat_of_le_succ (answered_subset_succ rules words)
  rcases Nat.le_total room (sufficientRoom rules words) with less | more
  · exact grows less
  have settled : (answered rules words room).card =
      (answered rules words (sufficientRoom rules words)).card := by
    refine Nat.stabilises_of_monotone (fun _ _ atLeast => Finset.card_le_card (grows atLeast))
      (card_answered_le rules words) (fun room same => ?_) more
    have unchanged := Finset.eq_of_subset_of_card_le (answered_subset_succ rules words room) same.ge
    exact congrArg Finset.card (Finset.Subset.antisymm
      (answered_subset_succ rules words (room + 1)) (answered_stays unchanged.ge))
  exact (Finset.eq_of_subset_of_card_le (grows more) settled.le).ge

/-- Whether a parser answers: some number of calls of rules inside one another is enough. -/
def Answers (rules : Rules) (parser : Parser) (words : List Word) : Prop :=
  ∃ room, (applyWithin rules room parser words).Returns

/-- A parser that answers with any room gives this answer with the room that there is for its words, or
for words that these are a suffix of. -/
theorem applyWithin_sufficientRoom {rules : Rules} {parser : Parser} {words rest : List Word}
    {room : Nat} (within : rest <:+ words)
    (returns : (applyWithin rules room parser rest).Returns) :
    applyWithin rules (sufficientRoom rules words) parser rest =
      applyWithin rules room parser rest := by
  refine applyWith_persists (drawnFrom_callRule rules room) parser rest
    (fun label index later inside => ?_) returns
  intro answers
  have enough := (mem_answered_of_suffix label (inside.trans within)).1
    (answered_subset_sufficientRoom rules words room
      ((mem_answered_of_suffix label (inside.trans within)).2 answers))
  rcases Nat.le_total room (sufficientRoom rules words) with less | more
  · exact callRule_persists_of_le rules less label index later answers
  · exact (callRule_persists_of_le rules more label index later enough).symm

theorem answers_iff {rules : Rules} {parser : Parser} {words : List Word} :
    Answers rules parser words ↔ (apply rules parser words).Returns := by
  refine ⟨fun ⟨room, returns⟩ => ?_, fun returns => ⟨_, returns⟩⟩
  rw [apply, applyWithin_sufficientRoom List.suffix_rfl returns]
  exact returns

/-- What a parser makes of a suffix does not depend on the words in front. -/
theorem Answers.applyWithin_eq_apply {rules : Rules} {parser : Parser} {words rest : List Word}
    (answers : Answers rules parser rest) (within : rest <:+ words) :
    applyWithin rules (sufficientRoom rules words) parser rest = apply rules parser rest :=
  applyWithin_sufficientRoom within (answers_iff.1 answers)

end Forth.Parser
