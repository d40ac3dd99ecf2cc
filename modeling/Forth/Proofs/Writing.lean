/-
This file says how tokens are written. An integer is written in the decimal
system, an operation as its word in capitals, a reference as the name, and a
definition with its words between a colon and a semicolon. Not every token can be
written, and not all that is written is read as the same token: a reference to a
word that is named like an operation would be read as the operation, and a
definition without a body would be refused.

The main statement is that reading undoes writing on exactly the well-formed
tokens, which are those that are ever read from a text.
-/

import Forth.Proofs.Decimal
import Forth.Proofs.Layout
import Forth.Proofs.WellFormed

namespace Forth

/-! ### Writing tokens -/

/-- The word for an operation, in capitals. A push has none. -/
def Opcode.word? (opcode : Opcode) : Option Word :=
  (Grammar.operations.find? fun entry => entry.2 == opcode).map Prod.fst

namespace Token

mutual

/-- The words that a token is written with, if there are any. -/
def source? : Token → Option (List Word)
  | .operation .push [.int value] => (Number.intText? value).map fun text => [text]
  | .operation opcode [] => opcode.word?.map fun word => [word]
  | .operation _ _ => none
  | .search name => some [name]
  | .store name body =>
    (sources? body).map fun words =>
      Syntax.openingWord :: name :: (words ++ [Syntax.closingWord])

/-- The words that tokens are written with, one after the other. -/
def sources? : List Token → Option (List Word)
  | [] => some []
  | token :: rest => do
    let words ← token.source?
    let others ← sources? rest
    return words ++ others

end

/-- Whether tokens can be written, and are read back from every text in which their words stand,
with any gaps around the words. -/
def ReadBack (tokens : List Token) : Prop :=
  ∃ words, sources? tokens = some words ∧
    ∀ gap, Text.IsSpacing gap words.length → parse (Text.layOut gap words) = .ok tokens

end Token

namespace Syntax

/-! ### Words that can be told apart in a text -/

theorem isBlank_digitCharacter (digit : Fin 10) : Text.isBlank (digitCharacter digit) = false := by
  revert digit
  decide

theorem Numeral.isWord (numeral : Numeral) : Text.IsWord numeral.word := by
  obtain ⟨sign, digits, nonempty, short⟩ := numeral
  constructor
  · simp [word, nonempty]
  · intro character member
    rw [word, String.toList_ofList] at member
    obtain inSign | inDigits := List.mem_append.1 member
    · cases sign with
      | absent => cases inSign
      | plus | minus =>
        cases List.mem_singleton.1 inSign
        decide
    · obtain ⟨digit, -, rfl⟩ := List.mem_map.1 inDigits
      exact isBlank_digitCharacter digit

theorem isWord_openingWord : Text.IsWord openingWord := by decide

theorem isWord_closingWord : Text.IsWord closingWord := by decide

theorem isWord_of_mem_operations {word : Word} {opcode : Opcode}
    (listed : (word, opcode) ∈ Grammar.operations) : Text.IsWord word := by
  have all : ∀ entry ∈ Grammar.operations, Text.IsWord entry.1 := by decide
  exact all _ listed

/-- The blank characters are no letters, digits or underscores. -/
theorem isBlank_of_isNamePart {character : Char} (part : Text.isNamePart character = true) :
    Text.isBlank character = false := by
  simp only [Text.isNamePart, Text.isNameStart, Text.isLetter, Text.isDigit, Bool.or_eq_true,
    Bool.and_eq_true, decide_eq_true_eq, beq_iff_eq] at part
  have visible : 0x30 ≤ character.toNat ∧ character.toNat ≤ 0x7A := by
    obtain ((⟨least, most⟩ | ⟨least, most⟩) | rfl) | ⟨least, most⟩ := part
    · exact ⟨Nat.le_trans (by decide) least, most⟩
    · exact ⟨Nat.le_trans (by decide) least, Nat.le_trans most (by decide)⟩
    · decide
    · exact ⟨least, Nat.le_trans most (by decide)⟩
  have apart : ∀ range ∈ Text.blankRanges, range.2 < 0x30 ∨ 0x7A < range.1 := by decide
  rw [Text.isBlank, List.any_eq_false]
  intro range member within
  have outside := apart range member
  simp only [Bool.and_eq_true, decide_eq_true_eq] at within
  omega

theorem isWord_of_isName {word : Word} (valid : Grammar.isName word = true) : Text.IsWord word := by
  unfold Grammar.isName at valid
  split at valid
  next => cases valid
  next first rest spelled =>
    rw [Bool.and_eq_true] at valid
    have starts : Text.isNamePart first = true := by rw [Text.isNamePart, valid.1]; rfl
    constructor
    · rw [spelled]
      exact List.cons_ne_nil _ _
    · intro character member
      rw [spelled] at member
      refine isBlank_of_isNamePart ?_
      obtain rfl | later := List.mem_cons.1 member
      · exact starts
      · exact List.all_eq_true.1 valid.2 _ later

/-! ### What is written of well-formed tokens -/

/-- The words of a syntax tree are what is written of a token, the tree stands for this token, and the
words can be told apart in a text. -/
structure Statement.Writes (statement : Statement) (token : Token) : Prop where
  stands : statement.token = token
  source : token.source? = some statement.words
  areWords : ∀ word ∈ statement.words, Text.IsWord word

/-- The same for several syntax trees and tokens. -/
structure Program.Writes (program : Program) (tokens : List Token) : Prop where
  stands : program.tokens = tokens
  sources : Token.sources? tokens = some program.words
  areWords : ∀ word ∈ program.words, Text.IsWord word

theorem exists_program_of_forall {tokens : List Token}
    (each : ∀ token ∈ tokens, ∃ statement : Statement, statement.Writes token) :
    ∃ program : Program, program.Writes tokens := by
  induction tokens with
  | nil => exact ⟨[], rfl, rfl, nofun⟩
  | cons token rest inductionHypothesis =>
    obtain ⟨⟨statement, first⟩, others⟩ := List.forall_mem_cons.1 each
    obtain ⟨program, writes⟩ := inductionHypothesis others
    refine ⟨statement :: program, ?_, ?_, ?_⟩
    · rw [Program.tokens, first.stands, writes.stands]
    · rw [Token.sources?, first.source, writes.sources, Program.words_cons]
      rfl
    · rw [Program.words_cons]
      intro word member
      exact (List.mem_append.1 member).elim (first.areWords word) (writes.areWords word)

theorem exists_operation {opcode : Opcode} (notPush : opcode ≠ .push) :
    ∃ word, opcode.word? = some word ∧ (word, opcode) ∈ Grammar.operations ∧
      Text.capitals word = word := by
  cases opcode with
  | push => exact absurd rfl notPush
  | _ => exact ⟨_, rfl, by decide, by decide⟩

/-- What is written of a well-formed token is a statement that stands for the token. -/
theorem exists_statement_of_wellFormed {token : Token} (wellFormed : token.WellFormed) :
    ∃ statement : Statement, statement.Writes token := by
  induction wellFormed with
  | push value small =>
    obtain ⟨text, written⟩ := Number.exists_intText?_iff.2 small
    obtain ⟨numeral, rfl, rfl⟩ := Number.exists_numeral_of_intText? written
    refine ⟨.atom (.number numeral), rfl, ?_, List.forall_mem_singleton.2 numeral.isWord⟩
    rw [Token.push, Token.source?, written]
    rfl
  | operation opcode notPush =>
    obtain ⟨word, written, listed, capital⟩ := exists_operation notPush
    refine ⟨.atom (.operation ⟨word, opcode, capital.symm ▸ listed⟩), rfl, ?_,
      List.forall_mem_singleton.2 (isWord_of_mem_operations listed)⟩
    rw [Token.source?, written]
    rfl
  | search name valid free =>
    exact ⟨.atom (.reference ⟨⟨name, valid⟩, free_of_operation? free⟩), rfl, rfl,
      List.forall_mem_singleton.2 (isWord_of_isName valid)⟩
  | store name body valid nonempty members inductionHypothesis =>
    obtain ⟨program, writes⟩ := exists_program_of_forall inductionHypothesis
    cases program with
    | nil => exact absurd writes.stands.symm nonempty
    | cons first others =>
      refine ⟨.definition ⟨name, valid⟩ first others, ?_, ?_, ?_⟩
      · rw [Statement.token_definition, writes.stands]
      · rw [Token.source?, writes.sources, Statement.words_definition]
        rfl
      · rw [Statement.words_definition]
        refine List.forall_mem_cons.2 ⟨isWord_openingWord, List.forall_mem_cons.2
          ⟨isWord_of_isName valid, fun word member => ?_⟩⟩
        obtain within | last := List.mem_append.1 member
        · exact writes.areWords word within
        · exact List.mem_singleton.1 last ▸ isWord_closingWord

/-- Well-formed tokens are read back from what is written of them. -/
theorem readBack_of_wellFormed {tokens : List Token}
    (wellFormed : ∀ token ∈ tokens, token.WellFormed) : Token.ReadBack tokens := by
  obtain ⟨program, writes⟩ := exists_program_of_forall fun token member =>
    exists_statement_of_wellFormed (wellFormed token member)
  refine ⟨program.words, writes.sources, fun gap spacing => ?_⟩
  rw [parse, Text.words_layOut spacing writes.areWords, parseWords_words, writes.stands]

/-- Reading undoes writing on exactly the well-formed tokens: they can be written and are read back,
however their words are laid out, and no others are. Whatever is read from a text is well formed, so
to write what was read and to read it again changes nothing. -/
theorem readBack_iff_wellFormed :
    (∀ tokens : List Token, Token.ReadBack tokens ↔ ∀ token ∈ tokens, token.WellFormed) ∧
    ∀ text tokens, parse text = .ok tokens →
      (∀ token ∈ tokens, token.WellFormed) ∧ Token.ReadBack tokens := by
  refine ⟨fun tokens => ⟨?_, readBack_of_wellFormed⟩, fun text tokens parsed =>
    ⟨wellFormed_of_parse parsed, readBack_of_wellFormed (wellFormed_of_parse parsed)⟩⟩
  rintro ⟨words, -, read⟩
  exact wellFormed_of_parse (read _ (Text.isSpacing_space words.length))

end Syntax

end Forth
