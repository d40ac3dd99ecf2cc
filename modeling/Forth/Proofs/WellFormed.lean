/-
This file describes the tokens that a program can consist of. In such a token
every push has exactly one number, every reference is to a name that is not
spelled like an operation, and every definition has a proper name and a body
with at least one token, at every level of nesting.

Whatever the parser reads is of this form. A definition in particular is made of
a name and a list of tokens that is not empty, and of nothing else, wherever in
the words the rule for definitions is applied.
-/

import Forth.Proofs.Reading

namespace Forth

/-! ### Well-formed tokens -/

/-- A token as it can be written in a program. -/
inductive Token.WellFormed : Token → Prop where
  /-- The number of a push has a text. -/
  | push (value : Int) (small : value.natAbs < 10 ^ Number.digitLimit) :
      WellFormed (.push (.int value))
  | operation (opcode : Opcode) (notPush : opcode ≠ .push) : WellFormed (.operation opcode [])
  | search (name : String) (valid : Grammar.isName name = true)
      (free : Grammar.operation? name = none) : WellFormed (.search name)
  | store (name : String) (body : List Token) (valid : Grammar.isName name = true)
      (nonempty : body ≠ []) (members : ∀ token ∈ body, WellFormed token) :
      WellFormed (.store name body)

/-- A push has an argument. -/
theorem Token.WellFormed.arguments_ne_nil {arguments : List Number}
    (wellFormed : (Token.operation .push arguments).WellFormed) : arguments ≠ [] := by
  cases wellFormed with
  | push => exact List.cons_ne_nil _ _
  | operation _ notPush => exact absurd rfl notPush

namespace Syntax

/-! ### The tokens of syntax trees -/

theorem Numeral.natAbs_value_lt (numeral : Numeral) :
    numeral.value.natAbs < 10 ^ Number.digitLimit :=
  calc numeral.value.natAbs < 10 ^ numeral.digits.length := numeral.natAbs_value_lt_pow_length
    _ ≤ 10 ^ Number.digitLimit := Nat.pow_le_pow_right (by decide) numeral.short

theorem Operation.opcode_ne_push (operator : Operation) : operator.opcode ≠ .push := by
  have listed : ∀ entry ∈ Grammar.operations, entry.2 ≠ .push := by decide
  exact listed _ operator.listed

theorem Atom.wellFormed_token (leaf : Atom) : leaf.token.WellFormed := by
  cases leaf with
  | operation operator => exact .operation _ operator.opcode_ne_push
  | number numeral => exact .push _ numeral.natAbs_value_lt
  | reference link => exact .search _ link.name.valid link.operation?_word

theorem Program.tokens_eq_map (program : Program) :
    program.tokens = program.map Statement.token := by
  induction program with
  | nil => rfl
  | cons statement rest inductionHypothesis =>
    rw [tokens, inductionHypothesis, List.map_cons]

theorem Statement.wellFormed_token (statement : Statement) : statement.token.WellFormed := by
  induction statement with
  | atom leaf => exact leaf.wellFormed_token
  | definition name first others inductionHypothesis =>
    rw [token_definition, Program.tokens_eq_map]
    refine .store _ _ name.valid (List.cons_ne_nil _ _) fun token member => ?_
    obtain ⟨inner, within, rfl⟩ := List.mem_map.1 member
    exact inductionHypothesis inner within

/-- The parser reads well-formed tokens only. -/
theorem wellFormed_of_parse {text : String} {tokens : List Token}
    (parsed : parse text = .ok tokens) : ∀ token ∈ tokens, token.WellFormed := by
  obtain ⟨program, -, rfl⟩ := parseWords_eq_ok_iff.1 parsed
  intro token member
  rw [Program.tokens_eq_map] at member
  obtain ⟨statement, -, rfl⟩ := List.mem_map.1 member
  exact statement.wellFormed_token

/-! ### What a definition is made of -/

open Forth.Parser (Match Outcome Repetition applyWith callRule repeatWith)

/-- The parser for the parts of a definition, before they are made into a token. -/
def definitionSequence : Parser :=
  .sequence [.discard (.terminal Grammar.definitionStart), .terminal Grammar.name,
    .body Grammar.statement, .discard (.terminal Grammar.definitionEnd)]

theorem definitionParts_eq :
    Grammar.definitionParts = .transform definitionSequence Grammar.define := rfl

/-- Whether what is made of words, if they match, is a token. -/
def MakesTokens (outcome : Outcome) : Prop :=
  ∀ made rest, outcome = .success made rest → ∃ token, made = .token token

theorem exists_tokens_of_repeatWith {item : List Word → Outcome} {words : List Word}
    {repetition : Repetition} (makes : ∀ words, MakesTokens (item words))
    (repeated : repeatWith item words = .ok repetition) :
    ∃ tokens : List Token, repetition.members = tokens.map .token := by
  fun_induction repeatWith item words generalizing repetition with
  | case1 => cases repeated
  | case2 => cases repeated; exact ⟨[], rfl⟩
  | case3 => cases repeated
  | case4 words made remainder matched _ rest repeatedRest inductionHypothesis =>
    cases repeated
    obtain ⟨token, rfl⟩ := makes words _ _ matched
    obtain ⟨tokens, members⟩ := inductionHypothesis repeatedRest
    exact ⟨token :: tokens, by rw [members, List.map_cons]⟩
  | case5 => cases repeated; exact ⟨[], rfl⟩

section Sequence

variable {call : String → Nat → List Word → Outcome}

/-- A sequence matches if its first part does and the others match what that leaves. -/
theorem exists_of_applySequence_cons {part : Parser} {parts : List Parser} {collected : List Match}
    {words rest : List Word} {made : Match}
    (applied : Parser.applySequence call collected (part :: parts) words = .success made rest) :
    ∃ first remainder, applyWith call part words = .success first remainder ∧
      Parser.applySequence call (if first.isEmpty then collected else first :: collected) parts
        remainder = .success made rest := by
  cases outcome : applyWith call part words with
  | success first remainder =>
    rw [applySequence_of_success outcome] at applied
    exact ⟨first, remainder, rfl, applied⟩
  | failure failure =>
    rw [applySequence_of_failure outcome] at applied
    cases applied
  | fault fault =>
    rw [Parser.applySequence, outcome] at applied
    cases applied

theorem eq_nothing_of_discard {item : Parser} {words rest : List Word} {made : Match}
    (applied : applyWith call (.discard item) words = .success made rest) : made = .nothing := by
  rw [applyWith] at applied
  cases outcome : applyWith call item words <;> rw [outcome] at applied <;> cases applied
  rfl

theorem exists_text_of_name {words rest : List Word} {made : Match}
    (applied : applyWith call (.terminal Grammar.name) words = .success made rest) :
    ∃ name, Grammar.isName name = true ∧ made = .text name := by
  rw [applyWith] at applied
  cases words with
  | nil => cases applied
  | cons word after =>
    cases valid : Grammar.isName word with
    | false =>
      rw [failure_name valid] at applied
      cases applied
    | true =>
      simp only [Terminal.apply, Grammar.name, valid, if_true, Outcome.success.injEq] at applied
      exact ⟨word, valid, applied.1.symm⟩

theorem makesTokens_statement (makes : ∀ label index words, MakesTokens (call label index words))
    (words : List Word) : MakesTokens (applyWith call Grammar.statement words) := by
  cases words with
  | nil =>
    rw [applyWith_statement_nil]
    exact makes _ _ _
  | cons word rest =>
    rw [applyWith_statement_cons]
    cases atomToken? word with
    | none => exact makes _ _ _
    | some token =>
      rintro made remainder same
      cases same
      exact ⟨token, rfl⟩

theorem exists_tokens_of_body (makes : ∀ label index words, MakesTokens (call label index words))
    {words rest : List Word} {made : Match}
    (applied : applyWith call (.body Grammar.statement) words = .success made rest) :
    ∃ tokens : List Token, tokens ≠ [] ∧ made = .list (tokens.map .token) := by
  rw [applyWith] at applied
  change (Parser.repetitionOutcome Repetition.outcomeOnce
    (repeatWith (applyWith call Grammar.statement) words)).mapFailure Parser.bodyFailure = _
    at applied
  cases repeated : repeatWith (applyWith call Grammar.statement) words with
  | error fault =>
    rw [repeated] at applied
    cases applied
  | ok repetition =>
    obtain ⟨tokens, members⟩ :=
      exists_tokens_of_repeatWith (makesTokens_statement makes) repeated
    rw [repeated, Parser.repetitionOutcome, Repetition.outcomeOnce] at applied
    split at applied
    next => cases applied
    next some =>
      cases applied
      rw [members] at some ⊢
      refine ⟨tokens, ?_, rfl⟩
      rintro rfl
      exact some rfl

/-- If the parts of a definition match, they make up a name and a body with at least one token. -/
theorem exists_of_definitionSequence
    (makes : ∀ label index words, MakesTokens (call label index words))
    {words rest : List Word} {made : Match}
    (applied : applyWith call definitionSequence words = .success made rest) :
    ∃ (name : String) (body : List Token), Grammar.isName name = true ∧ body ≠ [] ∧
      made = .list [.text name, .list (body.map .token)] := by
  rw [definitionSequence, applyWith] at applied
  obtain ⟨_, _, started, applied⟩ := exists_of_applySequence_cons applied
  obtain rfl := eq_nothing_of_discard started
  obtain ⟨_, _, named, applied⟩ := exists_of_applySequence_cons applied
  obtain ⟨name, valid, rfl⟩ := exists_text_of_name named
  obtain ⟨_, _, read, applied⟩ := exists_of_applySequence_cons applied
  obtain ⟨body, nonempty, rfl⟩ := exists_tokens_of_body makes read
  obtain ⟨_, _, ended, applied⟩ := exists_of_applySequence_cons applied
  obtain rfl := eq_nothing_of_discard ended
  obtain ⟨first, others, rfl⟩ := List.exists_cons_of_ne_nil nonempty
  cases applied
  exact ⟨name, first :: others, valid, nonempty, rfl⟩

end Sequence

/-- However deep calls of rules may nest, a rule makes tokens. -/
theorem makesTokens_callRule (room : Nat) (label : String) (index : Nat) (words : List Word) :
    MakesTokens (callRule Grammar.rules room label index words) := by
  induction room generalizing label index words with
  | zero =>
    intro made rest same
    cases index <;> cases same
  | succ room inductionHypothesis =>
    intro made rest same
    cases index with
    | succ => cases same
    | zero =>
      have transformed : (applyWith (callRule Grammar.rules room) definitionSequence words).mapMatch
          Grammar.define = .success made rest := same
      cases applied : applyWith (callRule Grammar.rules room) definitionSequence words with
      | success matched remainder =>
        rw [applied] at transformed
        obtain ⟨name, body, -, -, rfl⟩ :=
          exists_of_definitionSequence inductionHypothesis applied
        cases transformed
        exact ⟨_, rfl⟩
      | failure | fault =>
        rw [applied] at transformed
        cases transformed

/-- Wherever the rule for definitions is applied, a token is made of exactly a name and the tokens of
a body, which are not none. -/
theorem exists_parts_of_definition (room : Nat) {words rest : List Word} {made : Match}
    (applied : Parser.applyWithin Grammar.rules room definitionSequence words = .success made rest) :
    ∃ (name : String) (body : List Token), Grammar.isName name = true ∧ body ≠ [] ∧
      made = .list [.text name, .list (body.map .token)] :=
  exists_of_definitionSequence (makesTokens_callRule room) applied

end Syntax

end Forth
