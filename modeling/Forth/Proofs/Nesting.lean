/-
This file bounds what happens while a rule of the grammar is applied. Whatever the
words are, there is an answer. A definition is applied inside another one only
after the outer one has read its opening word and its name, so there are at most as
many definitions inside one another as there are opening words, and one more that
need not find any. A repetition applies its parser at most once for each word and
once more, since all matches but the last take a word.

The bounds are shown of the whole tree of applications. What a parser does by itself
never calls a rule, so the bound on the calls is that of the rules that it refers
to. A call of the definition adds one, and its parts pass on a list with an opening
word less.
-/

import Forth.Proofs.Applications
import Forth.Proofs.Reading

namespace Forth.Parser

/-! ### Where a repetition applies its parser -/

/-- A repetition applies its parser at most once for each word, and once more. -/
theorem length_repeatListed_le (item : List Word → Outcome) (words : List Word) :
    (repeatListed item words).1.length ≤ words.length + 1 := by
  fun_induction repeatListed item words with
  | case1 | case2 | case4 => exact Nat.succ_le_succ (Nat.zero_le _)
  | case3 words made remainder matched shorter later inductionHypothesis =>
    exact Nat.succ_le_succ (inductionHypothesis.trans shorter)

/-- A repetition applies its parser only to suffixes of the words. -/
theorem isSuffix_of_mem_repeatListed {item : List Word → Outcome} {words place : List Word}
    (drawn : ∀ words, (item words).DrawnFrom words) (member : place ∈ (repeatListed item words).1) :
    place <:+ words := by
  fun_induction repeatListed item words with
  | case1 words | case2 words | case4 words =>
    rw [List.mem_singleton.1 member]
  | case3 words made remainder matched shorter later inductionHypothesis =>
    have suffix := drawn words
    rw [matched] at suffix
    obtain rfl | further := List.mem_cons.1 member
    · exact List.suffix_rfl
    · exact (inductionHypothesis further).trans suffix

/-! ### Bounds on a tree of applications -/

/-- What holds of the applications that are active at one moment: there are at most `depth` calls of
rules among them, each of them has an answer, which is that of its parser, and each repetition applies
its parser at most `width` times. -/
structure WithinBounds (rules : Rules) (depth width : Nat) (active : List Application) : Prop where
  calls : active.countP Application.isCall ≤ depth
  returns : ∀ application ∈ active, application.outcome.Returns
  answers : ∀ application ∈ active,
    application.outcome = apply rules application.parser application.words
  loops : ∀ application ∈ active, application.isLoop = true → application.inside.length ≤ width

/-- Whether the bounds are kept at every moment of an application. -/
def Application.Bounded (rules : Rules) (depth width : Nat) (application : Application) : Prop :=
  ∀ active, Active application active → WithinBounds rules depth width active

/-- Whether there is an answer, and the bounds are kept at every moment of some applications. -/
structure Account.Bounded (rules : Rules) (depth width : Nat) (account : Account) : Prop where
  returns : account.outcome.Returns
  applications : ∀ application ∈ account.applications, application.Bounded rules depth width

section Bounds

variable {rules : Rules} {room depth width : Nat}

namespace Application

variable {application : Application}

theorem Bounded.mono {more : Nat} (bounded : application.Bounded rules depth width)
    (atMost : depth ≤ more) : application.Bounded rules more width := by
  intro active isActive
  obtain ⟨calls, returns, answers, loops⟩ := bounded active isActive
  exact ⟨calls.trans atMost, returns, answers, loops⟩

theorem Bounded.returns (bounded : application.Bounded rules depth width) :
    application.outcome.Returns :=
  (bounded _ (.innermost application)).returns application List.mem_cons_self

/-- An application adds itself to those that are active inside it. -/
theorem bounded_of_inside (returns : application.outcome.Returns)
    (answers : application.outcome = apply rules application.parser application.words)
    (loop : application.isLoop = true → application.inside.length ≤ width)
    (inside : ∀ part ∈ application.inside, part.Bounded rules depth width) :
    application.Bounded rules (if application.isCall then depth + 1 else depth) width := by
  intro active isActive
  cases isActive with
  | innermost =>
    refine ⟨?_, List.forall_mem_singleton.2 returns, List.forall_mem_singleton.2 answers,
      List.forall_mem_singleton.2 loop⟩
    rw [List.countP_singleton]
    split <;> omega
  | inside _ part parts made later =>
    have bounds := inside part made parts later
    refine ⟨?_, List.forall_mem_cons.2 ⟨returns, bounds.returns⟩,
      List.forall_mem_cons.2 ⟨answers, bounds.answers⟩,
      List.forall_mem_cons.2 ⟨loop, bounds.loops⟩⟩
    have calls := bounds.calls
    rw [List.countP_cons]
    split <;> omega

theorem Bounded.orElse (bounded : application.Bounded rules depth width)
    {next : Failure → Account} (boundedNext : ∀ reason, (next reason).Bounded rules depth width) :
    (application.orElse next).Bounded rules depth width := by
  have returns := bounded.returns
  unfold Application.orElse
  cases outcome : application.outcome with
  | success => exact ⟨trivial, List.forall_mem_singleton.2 bounded⟩
  | failure reason =>
    have later := boundedNext reason
    exact ⟨later.returns, List.forall_mem_cons.2 ⟨bounded, later.applications⟩⟩
  | fault =>
    rw [outcome] at returns
    cases returns

theorem Bounded.andThen (bounded : application.Bounded rules depth width)
    {next : Match → List Word → Account}
    (boundedNext : ∀ made remainder, application.outcome = .success made remainder →
      (next made remainder).Bounded rules depth width) :
    (application.andThen next).Bounded rules depth width := by
  have returns := bounded.returns
  unfold Application.andThen
  cases outcome : application.outcome with
  | success made remainder =>
    have later := boundedNext made remainder outcome
    exact ⟨later.returns, List.forall_mem_cons.2 ⟨bounded, later.applications⟩⟩
  | failure => exact ⟨trivial, List.forall_mem_singleton.2 bounded⟩
  | fault =>
    rw [outcome] at returns
    cases returns

end Application

/-- An application that is not a call keeps the bounds of those that it makes. -/
theorem bounded_of_account {parser : Parser} {words : List Word}
    (account : (observeWith (observeCall rules room) parser words).Bounded rules depth width)
    (noCall : (observe rules room parser words).isCall = false)
    (loop : (observe rules room parser words).isLoop = true →
      (observeWith (observeCall rules room) parser words).applications.length ≤ width) :
    (observe rules room parser words).Bounded rules depth width := by
  have answers := outcome_observe_eq_apply account.returns
  have inside := Application.bounded_of_inside account.returns answers loop account.applications
  rwa [noCall] at inside

/-! ### Parsers that are described in full -/

theorem Outcome.Returns.mapMatch {outcome : Outcome} (returns : outcome.Returns)
    (transform : Match → Match) : (outcome.mapMatch transform).Returns := by
  cases outcome with
  | success | failure => trivial
  | fault => cases returns

theorem Outcome.Returns.mapFailure {outcome : Outcome} (returns : outcome.Returns)
    (explain : Failure → Failure) : (outcome.mapFailure explain).Returns := by
  cases outcome with
  | success | failure => trivial
  | fault => cases returns

theorem returns_terminal (reader : Terminal) (words : List Word) : (reader.apply words).Returns := by
  cases words with
  | nil => trivial
  | cons word rest =>
    rw [Terminal.apply]
    cases reader.accept word <;> trivial

theorem returns_outcomeOnce (repetition : Repetition) : repetition.outcomeOnce.Returns := by
  unfold Repetition.outcomeOnce
  split <;> trivial

/-- Whether a parser is described in full: it has no stand-ins, and the rules that it refers to have
definitions. -/
inductive Complete (rules : Rules) : Parser → Prop where
  | terminal (reader : Terminal) : Complete rules (.terminal reader)
  | any (first : Parser) (others : List Parser)
      (alternatives : ∀ parser ∈ first :: others, Complete rules parser) :
      Complete rules (.any first others)
  | sequence (parts : List Parser) (complete : ∀ part ∈ parts, Complete rules part) :
      Complete rules (.sequence parts)
  | repeated (item : Parser) (complete : Complete rules item) : Complete rules (.repeated item)
  | repeatedOnce (item : Parser) (complete : Complete rules item) :
      Complete rules (.repeatedOnce item)
  | body (item : Parser) (complete : Complete rules item) : Complete rules (.body item)
  | discard (item : Parser) (complete : Complete rules item) : Complete rules (.discard item)
  | transform (item : Parser) (function : Match → Match) (complete : Complete rules item) :
      Complete rules (.transform item function)
  | rule (label : String) (index : Nat) (defined : (rules.definition? index).isSome = true) :
      Complete rules (.rule label index)

theorem bounded_terminal (reader : Terminal) (words : List Word) :
    (observe rules room (.terminal reader) words).Bounded rules depth width := by
  refine bounded_of_account ?_ rfl nofun
  rw [observeWith]
  exact ⟨returns_terminal reader words, List.forall_mem_nil _⟩

theorem bounded_discard {item : Parser} {words : List Word}
    (bounded : (observe rules room item words).Bounded rules depth width) :
    (observe rules room (.discard item) words).Bounded rules depth width := by
  refine bounded_of_account ?_ rfl nofun
  rw [observeWith]
  exact ⟨bounded.returns.mapMatch _, List.forall_mem_singleton.2 bounded⟩

theorem bounded_transform {item : Parser} {words : List Word} (function : Match → Match)
    (bounded : (observe rules room item words).Bounded rules depth width) :
    (observe rules room (.transform item function) words).Bounded rules depth width := by
  refine bounded_of_account ?_ rfl nofun
  rw [observeWith]
  exact ⟨bounded.returns.mapMatch _, List.forall_mem_singleton.2 bounded⟩

theorem bounded_observeAny (last : Failure) {others : List Parser} {words : List Word}
    (bounded : ∀ parser ∈ others, (observe rules room parser words).Bounded rules depth width) :
    (observeAny (observeCall rules room) last others words).Bounded rules depth width := by
  induction others generalizing last with
  | nil =>
    rw [observeAny]
    exact ⟨trivial, List.forall_mem_nil _⟩
  | cons parser others inductionHypothesis =>
    have ⟨here, later⟩ := List.forall_mem_cons.1 bounded
    rw [observeAny]
    exact here.orElse fun last => inductionHypothesis last later

theorem bounded_any {first : Parser} {others : List Parser} {words : List Word}
    (bounded : ∀ parser ∈ first :: others,
      (observe rules room parser words).Bounded rules depth width) :
    (observe rules room (.any first others) words).Bounded rules depth width := by
  have ⟨here, later⟩ := List.forall_mem_cons.1 bounded
  refine bounded_of_account ?_ rfl nofun
  rw [observeWith]
  exact here.orElse fun last => bounded_observeAny last later

theorem bounded_observeSequence_nil (collected : List Match) (words : List Word) :
    (observeSequence (observeCall rules room) collected [] words).Bounded rules depth width := by
  rw [observeSequence]
  exact ⟨trivial, List.forall_mem_nil _⟩

theorem bounded_observeSequence_cons (collected : List Match) {part : Parser}
    {parts : List Parser} {words : List Word}
    (bounded : (observe rules room part words).Bounded rules depth width)
    (boundedNext : ∀ collected made remainder,
      applyWithin rules room part words = .success made remainder →
      (observeSequence (observeCall rules room) collected parts remainder).Bounded rules depth
        width) :
    (observeSequence (observeCall rules room) collected (part :: parts) words).Bounded rules depth
      width := by
  rw [observeSequence]
  refine bounded.andThen fun made remainder matched => ?_
  rw [outcome_observe] at matched
  exact boundedNext _ made remainder matched

/-- Each part of a sequence is applied to a suffix of the words. -/
theorem bounded_observeSequence (collected : List Match) {parts : List Parser} {words : List Word}
    (bounded : ∀ part ∈ parts, ∀ rest, rest <:+ words →
      (observe rules room part rest).Bounded rules depth width) :
    (observeSequence (observeCall rules room) collected parts words).Bounded rules depth width := by
  induction parts generalizing collected words with
  | nil => exact bounded_observeSequence_nil collected words
  | cons part parts inductionHypothesis =>
    refine bounded_observeSequence_cons collected
      (bounded part List.mem_cons_self words List.suffix_rfl)
      fun collected made remainder matched => inductionHypothesis collected ?_
    have suffix := drawnFrom_applyWithin rules room part words
    rw [matched] at suffix
    exact fun other member rest within =>
      bounded other (List.mem_cons_of_mem _ member) rest (within.trans suffix)

theorem bounded_sequence {parts : List Parser} {words : List Word}
    (bounded : (observeSequence (observeCall rules room) [] parts words).Bounded rules depth width) :
    (observe rules room (.sequence parts) words).Bounded rules depth width := by
  refine bounded_of_account ?_ rfl nofun
  rwa [observeWith]

/-- A repetition applies its parser to suffixes of the words, at most once for each word and once more. -/
theorem bounded_loop {item parser : Parser} {words : List Word}
    {finish : Except Fault Repetition → Outcome}
    (observed : observeWith (observeCall rules room) parser words =
      observeRepeated (observe rules room item) finish words)
    (noCall : (observe rules room parser words).isCall = false) (wide : words.length + 1 ≤ width)
    (bounded : ∀ rest, rest <:+ words → (observe rules room item rest).Bounded rules depth width)
    (finishes : ∀ repetition, (finish (.ok repetition)).Returns) :
    (observe rules room parser words).Bounded rules depth width := by
  have drawn (rest : List Word) : (observe rules room item rest).outcome.DrawnFrom rest := by
    rw [outcome_observe]
    exact drawnFrom_applyWithin rules room item rest
  obtain ⟨repetition, ends⟩ := exists_repetition_of_returns drawn fun rest within =>
    (bounded rest within).returns
  refine bounded_of_account ?_ noCall fun _ => ?_ <;> rw [observed]
  · constructor
    · show (finish (repeatListed _ words).2).Returns
      rw [repeatListed_snd, ends]
      exact finishes repetition
    · exact List.forall_mem_map.2 fun place member =>
        bounded place (isSuffix_of_mem_repeatListed drawn member)
  · rw [observeRepeated, List.length_map]
    exact (length_repeatListed_le _ words).trans wide

/-- If the bounds are kept at every moment of every call from any place in the words on, they are kept
as well while a parser is applied that is described in full. -/
theorem bounded_observe {parser : Parser} (complete : Complete rules parser) {words : List Word}
    (wide : words.length + 1 ≤ width)
    (boundedCalls : ∀ label index rest, (rules.definition? index).isSome = true → rest <:+ words →
      (observe rules room (.rule label index) rest).Bounded rules depth width) :
    ∀ rest, rest <:+ words → (observe rules room parser rest).Bounded rules depth width := by
  have fits {rest : List Word} (within : rest <:+ words) : rest.length + 1 ≤ width :=
    (Nat.succ_le_succ within.length_le).trans wide
  induction complete with
  | terminal reader => exact fun rest _ => bounded_terminal reader rest
  | any first others _ inductionHypothesis =>
    exact fun rest within => bounded_any fun parser member =>
      inductionHypothesis parser member rest within
  | sequence parts _ inductionHypothesis =>
    exact fun rest within => bounded_sequence (bounded_observeSequence [] fun part member later inside =>
      inductionHypothesis part member later (inside.trans within))
  | repeated item _ inductionHypothesis =>
    exact fun rest within => bounded_loop (observeWith_repeated _ item rest) rfl (fits within)
      (fun later inside => inductionHypothesis later (inside.trans within)) fun _ => trivial
  | repeatedOnce item _ inductionHypothesis =>
    exact fun rest within => bounded_loop (observeWith_repeatedOnce _ item rest) rfl (fits within)
      (fun later inside => inductionHypothesis later (inside.trans within)) returns_outcomeOnce
  | body item _ inductionHypothesis =>
    exact fun rest within => bounded_loop (observeWith_body _ item rest) rfl (fits within)
      (fun later inside => inductionHypothesis later (inside.trans within)) fun repetition =>
        (returns_outcomeOnce repetition).mapFailure bodyFailure
  | discard item _ inductionHypothesis =>
    exact fun rest within => bounded_discard (inductionHypothesis rest within)
  | transform item function _ inductionHypothesis =>
    exact fun rest within => bounded_transform function (inductionHypothesis rest within)
  | rule label index defined =>
    exact fun rest within => boundedCalls label index rest defined within

end Bounds

end Forth.Parser

namespace Forth.Syntax

open Forth.Parser

/-! ### The rules of the grammar -/

/-- The rules that the grammar is made of. -/
inductive GrammarRule where
  | statement
  | definition
  | body
  | program
  deriving DecidableEq, Repr

/-- The parser for a rule. -/
def GrammarRule.parser : GrammarRule → Parser
  | .statement => Grammar.statement
  | .definition => Grammar.definition
  | .body => .body Grammar.statement
  | .program => Grammar.program

theorem complete_statement : Complete Grammar.rules Grammar.statement := by
  refine .any _ _ (List.forall_mem_cons.2 ⟨?_, List.forall_mem_singleton.2 ?_⟩)
  · exact .any _ _ (List.forall_mem_cons.2
      ⟨.terminal _, List.forall_mem_singleton.2 (.terminal _)⟩)
  · exact .any _ _ (List.forall_mem_cons.2 ⟨.transform _ _ (.terminal _),
      List.forall_mem_singleton.2 (.rule "definition" 0 rfl)⟩)

/-- The rules are described in full. -/
theorem GrammarRule.complete (rule : GrammarRule) : Complete Grammar.rules rule.parser := by
  cases rule with
  | statement => exact complete_statement
  | definition => exact .rule "definition" 0 rfl
  | body => exact .body _ complete_statement
  | program => exact .repeated _ complete_statement

/-- The only rule that is called is that of definitions. -/
theorem definition?_rules {index : Nat} {parser : Parser}
    (found : Grammar.rules.definition? index = some parser) :
    parser = Grammar.definitionParts := by
  match index with
  | 0 => exact (Option.some.inj found).symm
  | _ + 1 => cases found

/-! ### Definitions inside one another -/

section Definition

variable {room depth width : Nat} {words remainder : List Word} {made : Match}

theorem eq_of_definitionStart
    (matched : applyWithin Grammar.rules room (.discard (.terminal Grammar.definitionStart)) words =
      .success made remainder) : words = openingWord :: remainder := by
  rw [applyWithin, applyWith, applyWith] at matched
  cases words with
  | nil => cases matched
  | cons word rest =>
    by_cases opening : word = openingWord
    · subst opening
      cases matched
      rfl
    · rw [failure_definitionStart opening] at matched
      cases matched

/-- What a terminal reads is a word. -/
theorem exists_of_terminal {reader : Terminal}
    (matched : applyWithin Grammar.rules room (.terminal reader) words = .success made remainder) :
    ∃ word, words = word :: remainder := by
  rw [applyWithin, applyWith] at matched
  cases words with
  | nil => cases matched
  | cons word rest =>
    rw [Terminal.apply] at matched
    cases accepted : reader.accept word <;> rw [accepted] at matched <;> cases matched
    exact ⟨word, rfl⟩

/-- Of the parts of a definition only the body calls rules, and it comes after the opening word and a
name. -/
theorem bounded_definitionParts
    (body : ∀ name rest, words = openingWord :: name :: rest →
      (observe Grammar.rules room (.body Grammar.statement) rest).Bounded Grammar.rules depth width) :
    (observe Grammar.rules room Grammar.definitionParts words).Bounded Grammar.rules depth width := by
  refine bounded_transform _ (bounded_sequence ?_)
  refine bounded_observeSequence_cons [] (bounded_discard (bounded_terminal _ words))
    fun collected _ afterStart opened => ?_
  refine bounded_observeSequence_cons collected (bounded_terminal _ afterStart)
    fun collected _ afterName named => ?_
  have opens := eq_of_definitionStart opened
  obtain ⟨name, rfl⟩ := exists_of_terminal named
  refine bounded_observeSequence_cons collected (body name afterName opens)
    fun collected _ afterBody _ => ?_
  refine bounded_observeSequence_cons collected (bounded_discard (bounded_terminal _ afterBody))
    fun collected _ remainder _ => ?_
  exact bounded_observeSequence_nil collected remainder

/-- While a definition is applied, there are at most as many calls inside one another as there are
opening words, and one more. -/
theorem bounded_rule (enough : words.count openingWord < room) (wide : words.length + 1 ≤ width)
    (label : String) {index : Nat} (defined : (Grammar.rules.definition? index).isSome = true) :
    (observe Grammar.rules room (.rule label index) words).Bounded Grammar.rules
      (words.count openingWord + 1) width := by
  induction room generalizing words label index with
  | zero => omega
  | succ room inductionHypothesis =>
    obtain ⟨parser, found⟩ := Option.isSome_iff_exists.1 defined
    obtain rfl := definition?_rules found
    -- The parts of the definition spend one opening word before they call it again.
    have parts : (observe Grammar.rules room Grammar.definitionParts words).Bounded Grammar.rules
        (words.count openingWord) width := by
      refine bounded_definitionParts fun name rest opens => ?_
      have spent : rest.count openingWord < words.count openingWord := by
        rw [opens, List.count_cons_self]
        exact Nat.lt_succ_of_le (List.count_le_count_cons ..)
      have shorter : rest.length ≤ words.length := by
        rw [opens, List.length_cons, List.length_cons]
        omega
      refine bounded_observe (.body _ complete_statement) ((Nat.succ_le_succ shorter).trans wide)
        (fun label index later defined within => ?_) rest List.suffix_rfl
      have fewer := within.sublist.count_le openingWord
      have fits := within.length_le
      exact (inductionHypothesis (by omega) (by omega) label defined).mono (by omega)
    have called : (observeWith (observeCall Grammar.rules (room + 1)) (.rule label index)
        words).Bounded Grammar.rules (words.count openingWord) width := by
      rw [observeWith, observeCall_succ found]
      exact ⟨parts.returns, List.forall_mem_singleton.2 parts⟩
    exact Application.bounded_of_inside called.returns (outcome_observe_eq_apply called.returns)
      nofun called.applications

end Definition

/-- Every rule of the grammar has an answer for all words, with room for as many calls inside one another
as there are opening words and one more, and more room does not change the answer. At every moment of its
application there are at most so many calls inside one another, each of which is one of the definition,
since there is no other rule that is called. All active applications have the answers that their parsers
have, and no repetition applies its parser more often than once for each of the words and once more. -/
theorem rule_bounded (rule : GrammarRule) (words : List Word) (more : Nat) :
    let application := observe Grammar.rules (words.count openingWord + 1 + more) rule.parser words
    application.outcome = apply Grammar.rules rule.parser words ∧
    application.outcome.Returns ∧
    application.Bounded Grammar.rules (words.count openingWord + 1) (words.length + 1) := by
  intro application
  have bounded : application.Bounded Grammar.rules (words.count openingWord + 1)
      (words.length + 1) := by
    refine bounded_observe rule.complete (Nat.le_refl _)
      (fun label index rest defined within => ?_) words List.suffix_rfl
    have fewer := within.sublist.count_le openingWord
    have fits := within.length_le
    exact (bounded_rule (by omega) (by omega) label defined).mono (by omega)
  exact ⟨outcome_observe_eq_apply bounded.returns, bounded.returns, bounded⟩

end Forth.Syntax
