/-
This file says what a repetition does. It follows a chain of matches, each of which
reads at least one word and leaves the words that the next one begins with, up to a
place from where its parser fails or reads nothing. There is exactly one such chain,
and the parser is applied once at each of its places and nowhere else. Since every
match shortens the words, there are at most as many matches as words.
-/

import Forth.Proofs.Room
import Forth.Grammar

namespace Forth.Parser

/-! ### Applications -/

/-- Repeats a parser, and lists the words that it is applied to on the way. -/
def repeatListed (item : List Word → Outcome) (words : List Word) :
    List (List Word) × Except Fault Repetition :=
  match item words with
  | .fault fault => ([words], .error fault)
  | .failure failure => ([words], .ok ⟨[], words, failure⟩)
  | .success made remainder =>
    if remainder.length < words.length then
      let later := repeatListed item remainder
      (words :: later.1,
        match later.2 with
        | .error fault => .error fault
        | .ok rest => .ok { rest with members := made :: rest.members })
    else ([words], .ok ⟨[], words, .noProgress words.head?⟩)
termination_by words.length

/-- The list does not change what comes of the repetition. -/
theorem repeatListed_snd (item : List Word → Outcome) (words : List Word) :
    (repeatListed item words).2 = repeatWith item words := by
  fun_induction repeatListed item words with
  | case1 words fault failed => rw [repeatWith, failed]
  | case2 words failure failed => rw [repeatWith, failed]
  | case3 words made remainder matched shorter later inductionHypothesis =>
    rw [repeatWith, matched]
    simp only [if_pos shorter, ← inductionHypothesis]
    rfl
  | case4 words made remainder matched notShorter =>
    rw [repeatWith, matched]
    simp only [if_neg notShorter]

/-! ### Chains of matches -/

/-- A parser matches and reads something from one place after the other. The chain tells the places,
what is made at each of them, and the words that are left after the last one. -/
inductive Chain (item : List Word → Outcome) :
    List Word → List (List Word) → List Match → List Word → Prop where
  | done (words : List Word) : Chain item words [] [] words
  | next (words between remainder : List Word) (places : List (List Word)) (made : Match)
      (members : List Match) (matched : item words = .success made between)
      (shorter : between.length < words.length)
      (rest : Chain item between places members remainder) :
      Chain item words (words :: places) (made :: members) remainder

/-- A parser fails, or it matches and reads nothing. The failure of a repetition that halts here is that
of the parser, or blames the word that would be next. -/
inductive Halts (item : List Word → Outcome) (words : List Word) : Failure → Prop where
  | failed (failure : Failure) (applied : item words = .failure failure) : Halts item words failure
  | idle (made : Match) (applied : item words = .success made words) :
      Halts item words (.noProgress words.head?)

section Chains

variable {item itemToo : List Word → Outcome} {words remainder : List Word}
  {places : List (List Word)} {members : List Match} {failure : Failure}

/-- Every match takes at least one word. -/
theorem Chain.length_le (chain : Chain item words places members remainder) :
    places.length + remainder.length ≤ words.length := by
  induction chain with
  | done => rw [List.length_nil, Nat.zero_add]
  | next words between remainder places made members matched shorter rest inductionHypothesis =>
    rw [List.length_cons]
    omega

theorem Chain.eq_of_nil (chain : Chain item words places [] remainder) : remainder = words := by
  cases chain
  rfl

theorem Chain.isSuffix (drawn : ∀ words, (item words).DrawnFrom words)
    (chain : Chain item words places members remainder) : remainder <:+ words := by
  induction chain with
  | done => exact List.suffix_rfl
  | next words between remainder places made members matched shorter rest inductionHypothesis =>
    have suffix := drawn words
    rw [matched] at suffix
    exact inductionHypothesis.trans suffix

/-- A chain depends only on what the parser makes of suffixes of the words. -/
theorem Chain.congr (drawn : ∀ words, (item words).DrawnFrom words)
    (chain : Chain item words places members remainder)
    (same : ∀ rest, rest <:+ words → itemToo rest = item rest) :
    Chain itemToo words places members remainder := by
  induction chain with
  | done words => exact .done words
  | next words between remainder places made members matched shorter rest inductionHypothesis =>
    have suffix := drawn words
    rw [matched] at suffix
    refine .next words between remainder places made members ?_ shorter
      (inductionHypothesis fun rest within => same rest (within.trans suffix))
    rw [same words List.suffix_rfl, matched]

theorem Halts.congr (halts : Halts item words failure) (same : itemToo words = item words) :
    Halts itemToo words failure := by
  cases halts with
  | failed failure applied => exact .failed failure (same.trans applied)
  | idle made applied => exact .idle made (same.trans applied)

/-- Where a parser halts there is no match that reads something. -/
theorem Halts.repeatListed_eq (halts : Halts item words failure) :
    repeatListed item words = ([words], .ok ⟨[], words, failure⟩) := by
  unfold repeatListed
  cases halts with
  | failed failure applied => rw [applied]
  | idle made applied =>
    rw [applied]
    simp only [if_neg (Nat.lt_irrefl words.length)]

/-- A repetition follows a chain to its halt. -/
theorem Chain.repeatListed_eq (chain : Chain item words places members remainder)
    (halts : Halts item remainder failure) :
    repeatListed item words = (places ++ [remainder], .ok ⟨members, remainder, failure⟩) := by
  induction chain with
  | done words => exact halts.repeatListed_eq
  | next words between remainder places made members matched shorter rest inductionHypothesis =>
    unfold repeatListed
    rw [matched]
    simp only [if_pos shorter, inductionHypothesis halts]
    rfl

/-- If a repetition comes to an end, there is a chain that it has followed. -/
theorem exists_chain {repetition : Repetition} (drawn : ∀ words, (item words).DrawnFrom words)
    (repeated : repeatWith item words = .ok repetition) :
    ∃ places, Chain item words places repetition.members repetition.remainder ∧
      Halts item repetition.remainder repetition.failure := by
  fun_induction repeatWith item words generalizing repetition with
  | case1 => cases repeated
  | case2 words failure failed =>
    cases repeated
    exact ⟨[], .done words, .failed failure failed⟩
  | case3 => cases repeated
  | case4 words made between matched shorter rest repeatedRest inductionHypothesis =>
    cases repeated
    obtain ⟨places, chain, halts⟩ := inductionHypothesis repeatedRest
    exact ⟨words :: places,
      .next words between rest.remainder places made rest.members matched shorter chain, halts⟩
  | case5 words made between matched notShorter =>
    cases repeated
    -- What is left is drawn from the words and is no shorter, so nothing was read.
    have success := drawn words
    rw [matched] at success
    have unread : between = words := not_ne_iff.1 (mt success.length_lt_iff_ne.2 notShorter)
    rw [unread] at matched
    exact ⟨[], .done words, .idle made matched⟩

/-- The repetition of a parser that answers at every place comes to an end. -/
theorem exists_repetition_of_returns (drawn : ∀ words, (item words).DrawnFrom words)
    (returns : ∀ rest, rest <:+ words → (item rest).Returns) :
    ∃ repetition, repeatWith item words = .ok repetition := by
  fun_induction repeatWith item words with
  | case1 words fault failed =>
    have answer := returns words List.suffix_rfl
    rw [failed] at answer
    cases answer
  | case3 words made between matched _ fault failed inductionHypothesis =>
    have suffix := drawn words
    rw [matched] at suffix
    obtain ⟨repetition, repeated⟩ := inductionHypothesis fun rest within =>
      returns rest (within.trans suffix)
    cases failed.symm.trans repeated
  | case2 | case4 | case5 => exact ⟨_, rfl⟩

/-- There is only one chain that comes to a halt. -/
theorem Chain.unique {remainderToo : List Word} {placesToo : List (List Word)}
    {membersToo : List Match} {failureToo : Failure}
    (chain : Chain item words places members remainder) (halts : Halts item remainder failure)
    (chainToo : Chain item words placesToo membersToo remainderToo)
    (haltsToo : Halts item remainderToo failureToo) :
    placesToo = places ∧ membersToo = members ∧ remainderToo = remainder ∧
      failureToo = failure := by
  have same := (chainToo.repeatListed_eq haltsToo).symm.trans (chain.repeatListed_eq halts)
  obtain ⟨listed, result⟩ := Prod.mk.inj same
  cases result
  exact ⟨List.append_cancel_right listed, rfl, rfl, rfl⟩

end Chains

/-! ### Repeating a parser -/

theorem applyWith_repeated (call : String → Nat → List Word → Outcome) (item : Parser)
    (words : List Word) :
    applyWith call (.repeated item) words =
      repetitionOutcome Repetition.outcome (repeatListed (applyWith call item) words).2 := by
  rw [applyWith, repeatListed_snd]

theorem applyWith_repeatedOnce (call : String → Nat → List Word → Outcome) (item : Parser)
    (words : List Word) :
    applyWith call (.repeatedOnce item) words =
      repetitionOutcome Repetition.outcomeOnce (repeatListed (applyWith call item) words).2 := by
  rw [applyWith, repeatListed_snd]

/-- The repetition of a parser on words, with the list of the words that it is applied to. -/
def applyRepeated (rules : Rules) (item : Parser) (words : List Word) :
    List (List Word) × Except Fault Repetition :=
  repeatListed (applyWithin rules (sufficientRoom rules words) item) words

theorem apply_repeated (rules : Rules) (item : Parser) (words : List Word) :
    apply rules (.repeated item) words =
      repetitionOutcome Repetition.outcome (applyRepeated rules item words).2 :=
  applyWith_repeated _ item words

theorem apply_repeatedOnce (rules : Rules) (item : Parser) (words : List Word) :
    apply rules (.repeatedOnce item) words =
      repetitionOutcome Repetition.outcomeOnce (applyRepeated rules item words).2 :=
  applyWith_repeatedOnce _ item words

theorem drawnFrom_apply (rules : Rules) (parser : Parser) (words : List Word) :
    (apply rules parser words).DrawnFrom words :=
  drawnFrom_applyWithin rules _ parser words

/-- If a parser answers on all suffixes of some words, there is exactly one chain of matches from the
words on that comes to a halt. Repeating the parser applies it at the places of the chain, one after the
other, and where the chain halts, so not more than once for each word and once more. It never fails, but
matches what is made along the chain and leaves the words where it halts. A repetition that has to match
at least once does the same if there is a match in the chain, and else fails with the failure at the
halt, which is that of the parser on the words, or blames the first of the words if the parser matches
there. -/
theorem repeated_follows_chain (rules : Rules) (item : Parser) (words : List Word)
    (answers : ∀ rest, rest <:+ words → Answers rules item rest) :
    ∃ places members remainder failure,
      (∀ placesToo membersToo remainderToo failureToo,
        Chain (apply rules item) words placesToo membersToo remainderToo ∧
            Halts (apply rules item) remainderToo failureToo ↔
          placesToo = places ∧ membersToo = members ∧ remainderToo = remainder ∧
            failureToo = failure) ∧
      apply rules (.repeated item) words =
        repetitionOutcome Repetition.outcome (applyRepeated rules item words).2 ∧
      (applyRepeated rules item words).1 = places ++ [remainder] ∧
      (applyRepeated rules item words).1.length ≤ words.length + 1 ∧
      apply rules (.repeated item) words = .success (.list members) remainder ∧
      (members ≠ [] →
        apply rules (.repeatedOnce item) words = apply rules (.repeated item) words) ∧
      (members = [] → Halts (apply rules item) words failure ∧
        apply rules (.repeatedOnce item) words = .failure failure) := by
  have drawn := drawnFrom_apply rules item
  obtain ⟨⟨members, remainder, failure⟩, ends⟩ := exists_repetition_of_returns drawn
    fun rest within => answers_iff.1 (answers rest within)
  obtain ⟨places, chain, halts⟩ := exists_chain drawn ends
  -- In the repetition there is room for the calls on all of the words.
  have roomy (rest : List Word) (within : rest <:+ words) :
      applyWithin rules (sufficientRoom rules words) item rest = apply rules item rest :=
    (answers rest within).applyWithin_eq_apply within
  have repeated : applyRepeated rules item words =
      (places ++ [remainder], .ok ⟨members, remainder, failure⟩) :=
    (chain.congr drawn roomy).repeatListed_eq (halts.congr (roomy remainder (chain.isSuffix drawn)))
  have outcome : apply rules (.repeated item) words = .success (.list members) remainder := by
    rw [apply_repeated, repeated]
    rfl
  refine ⟨places, members, remainder, failure, fun placesToo membersToo remainderToo failureToo => ?_,
    apply_repeated rules item words, congrArg Prod.fst repeated, ?_, outcome, fun some => ?_,
    fun none => ?_⟩
  · constructor
    · rintro ⟨chainToo, haltsToo⟩
      exact chain.unique halts chainToo haltsToo
    · rintro ⟨rfl, rfl, rfl, rfl⟩
      exact ⟨chain, halts⟩
  · have shorter := chain.length_le
    rw [repeated, List.length_append, List.length_singleton]
    omega
  · have nonempty : members.isEmpty = false := List.isEmpty_eq_false_iff.2 some
    rw [outcome, apply_repeatedOnce, repeated]
    simp only [repetitionOutcome, Repetition.outcomeOnce, nonempty]
    rfl
  · subst none
    obtain rfl := chain.eq_of_nil
    refine ⟨halts, ?_⟩
    rw [apply_repeatedOnce, repeated]
    rfl

/-- A definition or nothing is read again and again: two definitions, one of which holds another, and
then nothing. The parser is applied three times. -/
theorem repeated_follows_chain_definitions :
    let item := Parser.any Grammar.definition [.sequence []]
    let words := [":", "f", ":", "g", "1", ";", ";", ":", "h", "g", ";", "2"]
    (∀ rest, rest <:+ words → Answers Grammar.rules item rest) ∧
    (applyRepeated Grammar.rules item words).1 = [words, [":", "h", "g", ";", "2"], ["2"]] ∧
    apply Grammar.rules (.repeated item) words = .success (.list
      [.token (.store "f" [.store "g" [.push (.int 1)]]), .token (.store "h" [.search "g"])])
      ["2"] := by
  intro item words
  have answers (rest : List Word) (within : rest <:+ words) : Answers Grammar.rules item rest := by
    have all : ∀ rest ∈ words.tails, (apply Grammar.rules item rest).Returns := by decide +kernel
    exact answers_iff.2 (all rest ((List.mem_tails _ _).2 within))
  have nested : apply Grammar.rules item words = .success
      (.token (.store "f" [.store "g" [.push (.int 1)]])) [":", "h", "g", ";", "2"] := by
    with_unfolding_all rfl
  have plain : apply Grammar.rules item [":", "h", "g", ";", "2"] = .success
      (.token (.store "h" [.search "g"])) ["2"] := by
    with_unfolding_all rfl
  have chain := Chain.next _ _ _ _ _ _ nested (by decide)
    (.next _ _ _ _ _ _ plain (by decide) (.done ["2"]))
  have halts : Halts (apply Grammar.rules item) ["2"] (.noProgress (some "2")) :=
    .idle (.list []) (by with_unfolding_all rfl)
  obtain ⟨places, members, remainder, failure, unique, -, listed, -, repeated, -⟩ :=
    repeated_follows_chain Grammar.rules item words answers
  obtain ⟨rfl, rfl, rfl, -⟩ := (unique _ _ _ _).1 ⟨chain, halts⟩
  exact ⟨answers, listed, repeated⟩

end Forth.Parser
