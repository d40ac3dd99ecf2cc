/-
This file states the laws of putting parsers together. They hold for all parsers and
all words, and for failures as for matches: alternatives and parts may be grouped in
any way, a choice between a parser and itself is no choice, and nothing is made of
words twice over. Repeating a repetition does it only once, since a repetition that
has come to a halt reads nothing more.
-/

import Forth.Proofs.Combination
import Forth.Proofs.Repetition

namespace Forth.Parser

section Laws

variable {call : String → Nat → List Word → Outcome}

/-- A choice between a parser and itself is the parser. -/
theorem applyWith_any_self (parser : Parser) (words : List Word) :
    applyWith call (.any parser [parser]) words = applyWith call parser words := by
  have again (last : Failure) : applyAny call last [parser] words = applyWith call parser words := by
    rw [applyAny_cons]
    cases applyWith call parser words <;> simp only [Outcome.orElse, applyAny]
  rw [applyWith_any]
  simp only [again]
  exact Outcome.orElse_self _

theorem applyWith_discard_discard (parser : Parser) (words : List Word) :
    applyWith call (.discard (.discard parser)) words = applyWith call (.discard parser) words := by
  rw [applyWith, applyWith]
  cases applyWith call parser words <;> rfl

/-- Where a parser halts, its repetition matches and reads nothing, so it halts there too. -/
theorem Halts.repeated {item : Parser} {words : List Word} {failure : Failure}
    (halts : Halts (applyWith call item) words failure) :
    Halts (applyWith call (.repeated item)) words (.noProgress words.head?) := by
  refine .idle (.list []) ?_
  rw [applyWith_repeated, halts.repeatListed_eq]
  rfl

/-- What comes of repeating a repetition: what the repetition itself has matched is the only match,
unless it has read nothing. -/
theorem applyWith_repeated_repeated
    (drawn : ∀ label index words, (call label index words).DrawnFrom words) (item : Parser)
    (words : List Word) :
    (∃ fault, applyWith call (.repeated item) words = .fault fault ∧
      applyWith call (.repeated (.repeated item)) words = .fault fault) ∨
    ∃ members remainder, applyWith call (.repeated item) words = .success (.list members) remainder ∧
      applyWith call (.repeated (.repeated item)) words =
        .success (.list (if remainder = words then [] else [.list members])) remainder := by
  rw [applyWith_repeated call (.repeated item)]
  cases repeated : repeatWith (applyWith call item) words with
  | error fault =>
    have failed : applyWith call (.repeated item) words = .fault fault := by
      rw [applyWith, repeated]
      rfl
    refine .inl ⟨fault, failed, ?_⟩
    rw [repeatListed, failed]
    rfl
  | ok repetition =>
    obtain ⟨members, remainder, failure⟩ := repetition
    have matched : applyWith call (.repeated item) words = .success (.list members) remainder := by
      rw [applyWith, repeated]
      rfl
    refine .inr ⟨members, remainder, matched, ?_⟩
    obtain ⟨places, chain, halts⟩ := exists_chain (drawnFrom_applyWith drawn item) repeated
    by_cases unread : remainder = words
    · subst unread
      rw [halts.repeated.repeatListed_eq, if_pos rfl]
      rfl
    · have suffix : remainder <:+ words := chain.isSuffix (drawnFrom_applyWith drawn item)
      have shorter : remainder.length < words.length :=
        Nat.lt_of_le_of_ne suffix.length_le fun same => unread (suffix.eq_of_length same)
      have once : Chain (applyWith call (.repeated item)) words [words] [.list members] remainder :=
        .next _ _ _ _ _ _ matched shorter (.done remainder)
      rw [once.repeatListed_eq halts.repeated, if_neg unread]
      rfl

end Laws

/-- Choices of three parsers have the same outcome, match or failure, however they are grouped, and a
choice between a parser and itself is the parser. Sequences of three parsers leave the same words or
fail alike, however they are grouped. Discarding twice is discarding. A repetition of a repetition
leaves the words that the repetition leaves; it matches a list of what the repetition has matched, which
is empty if nothing was read. -/
theorem combination_laws (rules : Rules) (first second third : Parser) (words : List Word) :
    let outcome (parser : Parser) := apply rules parser words
    outcome (.any (.any first [second]) [third]) = outcome (.any first [second, third]) ∧
    outcome (.any first [.any second [third]]) = outcome (.any first [second, third]) ∧
    outcome (.any first [first]) = outcome first ∧
    (outcome (.sequence [.sequence [first, second], third])).verdict =
      (outcome (.sequence [first, second, third])).verdict ∧
    (outcome (.sequence [first, .sequence [second, third]])).verdict =
      (outcome (.sequence [first, second, third])).verdict ∧
    outcome (.discard (.discard first)) = outcome (.discard first) ∧
    ((∃ fault, outcome (.repeated first) = .fault fault ∧
        outcome (.repeated (.repeated first)) = .fault fault) ∨
      ∃ members remainder, outcome (.repeated first) = .success (.list members) remainder ∧
        outcome (.repeated (.repeated first)) =
          .success (.list (if remainder = words then [] else [.list members])) remainder) := by
  refine ⟨applyWith_any_any first [second] [third] words, ?_, applyWith_any_self first words,
    verdict_sequence_sequence [] [first, second] [third] words,
    verdict_sequence_sequence [first] [second, third] [] words,
    applyWith_discard_discard first words,
    applyWith_repeated_repeated (drawnFrom_callRule rules _) first words⟩
  simp only [apply, applyWithin, applyWith_any]
  exact congrArg _ (funext fun last => applyAny_any last second [] [third] [] words)

end Forth.Parser
