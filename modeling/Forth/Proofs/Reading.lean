/-
This file says what the parser makes of every list of words, in terms of syntax
trees. A statement is read from the front of the words if there is one, and it
is the token of its tree that is read. If there is none, `Refused` lists the
reasons together with the failure that each leads to, so the failures of the
parser are exactly the ways in which words can fail to begin a statement.

From this follows how programs are read: the parser accepts the words that the
grammar derives, and no others, and reads them as their only derivation.
-/

import Forth.Program
import Forth.Proofs.Syntax

namespace Forth.Syntax

open Forth.Grammar (definitionParts isName rules statement)
open Forth.Parser (Failure Match Outcome Repetition applyWith callRule repeatWith)

/-! ### Why words begin no statement -/

/-- Whether a definition is complete that has the given statements in its body and goes on with the
given words. -/
def Closed (body : Program) (remainder : List Word) : Prop :=
  body ≠ [] ∧ ∃ after, remainder = closingWord :: after

theorem not_closed_nil (body : Program) : ¬ Closed body [] := by
  rintro ⟨-, after, same⟩
  cases same

theorem not_closed_cons {word : Word} (notClosing : word ≠ closingWord) (body : Program)
    (rest : List Word) : ¬ Closed body (word :: rest) := by
  rintro ⟨-, after, same⟩
  exact notClosing (List.cons.inj same).1

/-- The failure of a definition that is not complete, where the words that remain begin no more
statements for the given reason. -/
def unclosedFailure (body : Program) (remainder : List Word) (reason : Failure) : Failure :=
  match body, remainder with
  | [], _ => Parser.bodyFailure reason
  | _ :: _, [] => .ended (Terminal.keywordText closingWord)
  | _ :: _, word :: _ => .unexpected (Terminal.keywordText closingWord) word

/-- The words begin no statement, and the failure tells why. -/
inductive Refused : List Word → Failure → Prop where
  /-- There are no words. -/
  | ended : Refused [] (.ended (Terminal.keywordText openingWord))
  /-- The first word neither is an atom nor opens a definition. -/
  | unrecognized (word : Word) (rest : List Word) (notAtom : atomToken? word = none)
      (notOpening : word ≠ openingWord) : Refused (word :: rest) (.unrecognized word)
  /-- A definition ends before its name. -/
  | nameMissing : Refused [openingWord] (.ended "a word name")
  /-- A definition has no proper name. -/
  | nameInvalid (word : Word) (rest : List Word) (invalid : isName word = false) :
      Refused (openingWord :: word :: rest) (.invalidName word)
  /-- A definition is not closed after its body. -/
  | unclosed (name : Name) (body : Program) (remainder : List Word) (reason : Failure)
      (refused : Refused remainder reason) (notClosed : ¬ Closed body remainder) :
      Refused (openingWord :: name.word :: (body.words ++ remainder))
        (unclosedFailure body remainder reason)

/-- A statement that begins with the opening word is a definition. -/
theorem Statement.exists_eq_definition {statement : Statement} {rest after : List Word}
    (same : statement.words ++ after = openingWord :: rest) :
    ∃ (name : Name) (first : Statement) (others : Program),
      statement = .definition name first others ∧
      name.word :: (Program.words (first :: others) ++ closingWord :: after) = rest := by
  cases statement with
  | atom leaf =>
    rw [words] at same
    exact absurd (List.cons.inj same).1 leaf.word_ne_openingWord
  | definition name first others =>
    simp only [words_definition, List.cons_append, List.append_assoc, List.cons.injEq,
      true_and, List.nil_append] at same
    exact ⟨name, first, others, rfl, same⟩

/-- Words that are refused begin no statement. -/
theorem Refused.barren {words : List Word} {failure : Failure} (refused : Refused words failure) :
    Barren words := by
  induction refused with
  | ended => exact barren_nil
  | unrecognized word rest notAtom notOpening => exact barren_cons notAtom notOpening rest
  | nameMissing =>
    intro statement after same
    obtain ⟨name, first, others, -, rest⟩ := Statement.exists_eq_definition same.symm
    cases rest
  | nameInvalid word rest invalid =>
    intro statement after same
    obtain ⟨name, first, others, -, rest⟩ := Statement.exists_eq_definition same.symm
    rw [← (List.cons.inj rest).1, name.valid] at invalid
    cases invalid
  | unclosed name body remainder reason _ notClosed inductionHypothesis =>
    intro statement after same
    obtain ⟨otherName, first, others, -, rest⟩ := Statement.exists_eq_definition same.symm
    obtain ⟨rfl, ends⟩ := Program.definite inductionHypothesis (barren_closingWord after)
      (List.cons.inj rest).2.symm
    exact notClosed ⟨List.cons_ne_nil _ _, after, ends⟩

/-- There is only one reason for words to be refused. -/
theorem Refused.unique {words : List Word} {left right : Failure} (refused : Refused words left)
    (refusedToo : Refused words right) : left = right := by
  induction refused generalizing right with
  | ended =>
    cases refusedToo
    rfl
  | unrecognized word rest notAtom notOpening =>
    cases refusedToo with
    | unrecognized => rfl
    | nameMissing => exact absurd rfl notOpening
    | nameInvalid => exact absurd rfl notOpening
    | unclosed => exact absurd rfl notOpening
  | nameMissing =>
    cases refusedToo with
    | unrecognized _ _ _ notOpening => exact absurd rfl notOpening
    | nameMissing => rfl
  | nameInvalid word rest invalid =>
    cases refusedToo with
    | unrecognized _ _ _ notOpening => exact absurd rfl notOpening
    | nameInvalid => rfl
    | unclosed name =>
      rw [name.valid] at invalid
      cases invalid
  | unclosed name body remainder reason refused notClosed inductionHypothesis =>
    generalize same : openingWord :: name.word :: (body.words ++ remainder) = words at refusedToo
    cases refusedToo with
    | ended => cases same
    | unrecognized word rest _ notOpening => exact absurd (List.cons.inj same).1.symm notOpening
    | nameMissing => cases (List.cons.inj same).2
    | nameInvalid word rest invalid =>
      rw [← (List.cons.inj (List.cons.inj same).2).1, name.valid] at invalid
      cases invalid
    | unclosed otherName otherBody otherRemainder otherReason refusedToo =>
      -- Neither remainder begins a statement, so both bodies end at the same word.
      obtain ⟨rfl, rfl⟩ := Program.definite refused.barren refusedToo.barren
        (List.cons.inj (List.cons.inj same).2).2
      rw [inductionHypothesis refusedToo]

/-! ### The rules of the language, one at a time -/

section Rules

variable {call : String → Nat → List Word → Outcome}

theorem applyWith_statement_nil : applyWith call statement [] = call "definition" 0 [] := by
  simp only [statement, Grammar.stackOperation, Grammar.dictionaryOperation, Grammar.reference,
    Grammar.definition, Grammar.operation, Grammar.number, Grammar.name, applyWith, Parser.applyAny,
    Terminal.apply, Outcome.mapMatch]
  cases call "definition" 0 [] <;> rfl

/-- A statement is an atom if its first word is one, and else a definition. -/
theorem applyWith_statement_cons (word : Word) (rest : List Word) :
    applyWith call statement (word :: rest) =
      match atomToken? word with
      | some token => .success (.token token) rest
      | none => call "definition" 0 (word :: rest) := by
  simp only [statement, Grammar.stackOperation, Grammar.dictionaryOperation, Grammar.reference,
    Grammar.definition, Grammar.operation, Grammar.number, Grammar.name, applyWith, Parser.applyAny,
    Terminal.apply, atomToken?]
  cases Grammar.operation? word with
  | some opcode => rfl
  | none =>
    cases Number.readInt? word with
    | some value => rfl
    | none =>
      cases isName word with
      | true => rfl
      | false => cases call "definition" 0 (word :: rest) <;> rfl

theorem applySequence_of_success {part : Parser} {parts : List Parser} {collected : List Match}
    {words remainder : List Word} {made : Match}
    (applied : applyWith call part words = .success made remainder) :
    Parser.applySequence call collected (part :: parts) words =
      Parser.applySequence call (if made.isEmpty then collected else made :: collected) parts
        remainder := by
  rw [Parser.applySequence, applied]

theorem applySequence_of_failure {part : Parser} {parts : List Parser} {collected : List Match}
    {words : List Word} {failure : Failure} (applied : applyWith call part words = .failure failure) :
    Parser.applySequence call collected (part :: parts) words = .failure failure := by
  rw [Parser.applySequence, applied]

theorem applyWith_definitionParts_of_failure {words : List Word} {failure : Failure}
    (refused : Grammar.definitionStart.apply words = .failure failure) :
    applyWith call definitionParts words = .failure failure := by
  have opened : applyWith call (.discard (.terminal Grammar.definitionStart)) words =
      .failure failure := by
    rw [applyWith, applyWith, refused]
    rfl
  unfold definitionParts
  rw [applyWith, applyWith, applySequence_of_failure opened]
  rfl

theorem applyWith_definitionStart (rest : List Word) :
    applyWith call (.discard (.terminal Grammar.definitionStart)) (openingWord :: rest) =
      .success .nothing rest := by
  rfl

theorem failure_definitionStart {word : Word} (notOpening : word ≠ openingWord) (rest : List Word) :
    Grammar.definitionStart.apply (word :: rest) = .failure (.unrecognized word) := by
  have different : (word == ":") = false := beq_eq_false_iff_ne.2 notOpening
  simp only [Terminal.apply, Grammar.definitionStart, Terminal.keyword, different]
  rfl

theorem failure_name {word : Word} (invalid : isName word = false) (rest : List Word) :
    Grammar.name.apply (word :: rest) = .failure (.invalidName word) := by
  simp only [Terminal.apply, Grammar.name, invalid]
  rfl

theorem applyWith_definitionEnd (rest : List Word) :
    applyWith call (.discard (.terminal Grammar.definitionEnd)) (closingWord :: rest) =
      .success .nothing rest := by
  rfl

theorem failure_definitionEnd_nil :
    applyWith call (.discard (.terminal Grammar.definitionEnd)) [] =
      .failure (.ended (Terminal.keywordText closingWord)) := by
  rfl

theorem failure_definitionEnd {word : Word} (notClosing : word ≠ closingWord) (rest : List Word) :
    applyWith call (.discard (.terminal Grammar.definitionEnd)) (word :: rest) =
      .failure (.unexpected (Terminal.keywordText closingWord) word) := by
  have different : (word == closingWord) = false := beq_eq_false_iff_ne.2 notClosing
  simp only [applyWith, Grammar.definitionEnd, Terminal.keyword, Terminal.apply, different]
  rfl

theorem tokens_map_token (tokens : List Token) : (Match.list (tokens.map .token)).tokens = tokens := by
  rw [Match.tokens, List.filterMap_map]
  exact List.filterMap_some

theorem applyWith_definitionParts_of_name_failure {rest : List Word} {failure : Failure}
    (refused : Grammar.name.apply rest = .failure failure) :
    applyWith call definitionParts (openingWord :: rest) = .failure failure := by
  have named : applyWith call (.terminal Grammar.name) rest = .failure failure := by
    rw [applyWith, refused]
  unfold definitionParts
  rw [applyWith, applyWith, applySequence_of_success (applyWith_definitionStart rest),
    applySequence_of_failure named]
  rfl

/-- After the name come the body and the closing word. -/
theorem applyWith_definitionParts_name (name : Name) (rest : List Word) :
    applyWith call definitionParts (openingWord :: name.word :: rest) =
      (Parser.applySequence call [.text name.word]
        [.body statement, .discard (.terminal Grammar.definitionEnd)] rest).mapMatch
          Grammar.define := by
  have named : applyWith call (.terminal Grammar.name) (name.word :: rest) =
      .success (.text name.word) rest := by
    simp only [applyWith, Terminal.apply, Grammar.name, name.valid, if_true]
  unfold definitionParts
  rw [applyWith, applyWith, applySequence_of_success (applyWith_definitionStart _),
    applySequence_of_success named]
  rfl

end Rules

/-! ### Reading statements -/

/-- What a parser should make of words: it reads a statement, or tells why there is none. -/
inductive Answered : List Word → Outcome → Prop where
  | read (statement : Statement) (rest : List Word) :
      Answered (statement.words ++ rest) (.success (.token statement.token) rest)
  | refused (words : List Word) (failure : Failure) (refused : Refused words failure) :
      Answered words (.failure failure)

/-- What a repetition should make of words: it reads all statements in front, and tells why there
are no more. -/
inductive Exhausted : List Word → Repetition → Prop where
  | intro (program : Program) (remainder : List Word) (failure : Failure)
      (refused : Refused remainder failure) :
      Exhausted (program.words ++ remainder) ⟨program.tokens.map .token, remainder, failure⟩

theorem Answered.exists_statement {words remainder : List Word} {made : Match}
    (answered : Answered words (.success made remainder)) :
    ∃ statement : Statement,
      words = statement.words ++ remainder ∧ made = .token statement.token := by
  cases answered with
  | read statement => exact ⟨statement, rfl, rfl⟩

theorem Exhausted.cons {words : List Word} {repetition : Repetition} (statement : Statement)
    (exhausted : Exhausted words repetition) :
    Exhausted (statement.words ++ words)
      { repetition with members := .token statement.token :: repetition.members } := by
  cases exhausted with
  | intro program remainder failure refused =>
    rw [← List.append_assoc, ← Program.words_cons]
    exact .intro (statement :: program) remainder failure refused

/-- Repeating a parser that reads statements reads them all. -/
theorem exists_repetition {item : List Word → Outcome} {words : List Word}
    (answered : ∀ suffix, suffix <:+ words → Answered suffix (item suffix)) :
    ∃ repetition, repeatWith item words = .ok repetition ∧ Exhausted words repetition := by
  fun_induction repeatWith item words with
  | case1 words fault failed =>
    have outcome := answered words List.suffix_rfl
    rw [failed] at outcome
    cases outcome
  | case2 words failure failed =>
    have outcome := answered words List.suffix_rfl
    rw [failed] at outcome
    cases outcome with
    | refused _ _ refused => exact ⟨_, rfl, .intro [] words failure refused⟩
  | case3 words made remainder matched _ fault failed inductionHypothesis =>
    have outcome := answered words List.suffix_rfl
    rw [matched] at outcome
    obtain ⟨statement, rfl, -⟩ := outcome.exists_statement
    obtain ⟨rest, repeated, -⟩ := inductionHypothesis fun suffix within =>
      answered suffix (within.trans (List.suffix_append _ _))
    rw [repeated] at failed
    cases failed
  | case4 words made remainder matched _ rest repeated inductionHypothesis =>
    have outcome := answered words List.suffix_rfl
    rw [matched] at outcome
    obtain ⟨statement, rfl, rfl⟩ := outcome.exists_statement
    obtain ⟨found, repeatedToo, exhausted⟩ := inductionHypothesis fun suffix within =>
      answered suffix (within.trans (List.suffix_append _ _))
    cases repeated.symm.trans repeatedToo
    exact ⟨_, rfl, exhausted.cons statement⟩
  | case5 words made remainder matched notShorter =>
    have outcome := answered words List.suffix_rfl
    rw [matched] at outcome
    obtain ⟨statement, rfl, -⟩ := outcome.exists_statement
    have nonempty := statement.words_length_pos
    rw [List.length_append] at notShorter
    omega

section Definition

variable {call : String → Nat → List Word → Outcome}

theorem applyWith_body {rest : List Word} {repetition : Repetition}
    (repeated : repeatWith (applyWith call statement) rest = .ok repetition) :
    applyWith call (.body statement) rest =
      repetition.outcomeOnce.mapFailure Parser.bodyFailure := by
  rw [applyWith]
  exact congrArg (fun result => (Parser.repetitionOutcome Repetition.outcomeOnce result).mapFailure
    Parser.bodyFailure) repeated

/-- A definition is read, or refused, after what its body is. -/
theorem answered_definition (name : Name) {rest : List Word} {repetition : Repetition}
    (repeated : repeatWith (applyWith call statement) rest = .ok repetition)
    (exhausted : Exhausted rest repetition) :
    Answered (openingWord :: name.word :: rest)
      (applyWith call definitionParts (openingWord :: name.word :: rest)) := by
  rw [applyWith_definitionParts_name]
  cases exhausted with
  | intro program remainder failure refused =>
    cases program with
    | nil =>
      have body : applyWith call (.body statement) remainder =
          .failure (Parser.bodyFailure failure) := applyWith_body repeated
      rw [show Program.words [] ++ remainder = remainder from rfl, applySequence_of_failure body]
      exact .refused _ _ (.unclosed name [] remainder failure refused fun closed => closed.1 rfl)
    | cons first others =>
      have body : applyWith call (.body statement) (Program.words (first :: others) ++ remainder) =
          .success (.list ((Program.tokens (first :: others)).map .token)) remainder :=
        applyWith_body repeated
      rw [applySequence_of_success body]
      cases remainder with
      | nil =>
        rw [applySequence_of_failure failure_definitionEnd_nil]
        exact .refused _ _ (.unclosed name (first :: others) [] failure refused
          (not_closed_nil _))
      | cons word rest =>
        by_cases closing : word = closingWord
        · subst closing
          rw [applySequence_of_success (applyWith_definitionEnd rest)]
          have read := Answered.read (.definition name first others) rest
          rw [Statement.words_definition, Statement.token_definition,
            ← tokens_map_token (Program.tokens (first :: others)), List.cons_append,
            List.cons_append, List.append_assoc] at read
          exact read
        · rw [applySequence_of_failure (failure_definitionEnd closing rest)]
          exact .refused _ _ (.unclosed name (first :: others) (word :: rest) failure refused
            (not_closed_cons closing _ _))

end Definition

/-- The parser for statements answers for all words, if there is room for as many calls of rules
inside one another as there are words that open a definition, and one more. -/
theorem answered_statement (room : Nat) (words : List Word)
    (enough : words.count openingWord < room) :
    Answered words (Parser.applyWithin rules room statement words) := by
  induction room generalizing words with
  | zero => omega
  | succ room inductionHypothesis =>
    unfold Parser.applyWithin
    cases words with
    | nil =>
      rw [applyWith_statement_nil]
      exact .refused _ _ .ended
    | cons word rest =>
      rw [applyWith_statement_cons]
      cases read : atomToken? word with
      | some token =>
        obtain ⟨leaf, rfl, rfl⟩ := Atom.exists_of_atomToken? read
        exact .read (.atom leaf) rest
      | none =>
        show Answered _ (applyWith (callRule rules room) definitionParts (word :: rest))
        by_cases opening : word = openingWord
        · subst opening
          cases rest with
          | nil => exact .refused _ _ .nameMissing
          | cons word rest =>
            cases valid : isName word with
            | false =>
              rw [applyWith_definitionParts_of_name_failure (failure_name valid rest)]
              exact .refused _ _ (.nameInvalid word rest valid)
            | true =>
              -- One opening word is spent, so the room of one call less is enough for the body.
              have body : ∀ suffix, suffix <:+ rest →
                  Answered suffix (applyWith (callRule rules room) statement suffix) := by
                intro suffix within
                refine inductionHypothesis suffix ?_
                have fewer := within.sublist.count_le openingWord
                have counted : (openingWord :: word :: rest).count openingWord ≥
                    rest.count openingWord + 1 := by
                  rw [List.count_cons_self]
                  exact Nat.succ_le_succ (List.count_le_count_cons ..)
                omega
              obtain ⟨repetition, repeated, exhausted⟩ := exists_repetition body
              exact answered_definition ⟨word, valid⟩ repeated exhausted
        · rw [applyWith_definitionParts_of_failure (failure_definitionStart opening rest)]
          exact .refused _ _ (.unrecognized word rest read opening)

/-! ### Reading programs -/

/-- There is always room enough, so the statements of a program are read without a fault. -/
theorem exists_repetition_statement (words : List Word) :
    ∃ repetition,
      repeatWith (Parser.applyWithin rules (Parser.sufficientRoom rules words) statement) words =
        .ok repetition ∧ Exhausted words repetition := by
  refine exists_repetition fun suffix within => answered_statement _ suffix ?_
  have fewer : suffix.count openingWord ≤ words.length :=
    List.count_le_length.trans within.length_le
  have room : Parser.sufficientRoom rules words = 1 * (words.length + 1) := rfl
  omega

theorem readStatements_exhausted (words : List Word) : Exhausted words (readStatements words) := by
  obtain ⟨repetition, repeated, exhausted⟩ := exists_repetition_statement words
  rw [readStatements, repeated]
  exact exhausted

/-- What the parser for programs makes of words is what is read of them. -/
theorem apply_program (words : List Word) :
    Parser.apply rules Grammar.program words = (readStatements words).outcome := by
  obtain ⟨repetition, repeated, -⟩ := exists_repetition_statement words
  rw [readStatements, repeated, Grammar.program, Parser.apply, Parser.applyWithin, applyWith]
  exact congrArg (Parser.repetitionOutcome Repetition.outcome) repeated

theorem Exhausted.unique {words : List Word} {left right : Repetition}
    (exhausted : Exhausted words left) (exhaustedToo : Exhausted words right) : left = right := by
  cases exhausted with
  | intro program remainder failure refused =>
    generalize same : program.words ++ remainder = words at exhaustedToo
    cases exhaustedToo with
    | intro otherProgram otherRemainder otherFailure refusedToo =>
      obtain ⟨rfl, rfl⟩ := Program.definite refused.barren refusedToo.barren same
      rw [refused.unique refusedToo]

/-- Statements in front of words that are refused are read, and the reason for the refusal is the
failure that ends the reading. -/
theorem readStatements_append (program : Program) {remainder : List Word} {failure : Failure}
    (refused : Refused remainder failure) :
    readStatements (program.words ++ remainder) =
      ⟨program.tokens.map .token, remainder, failure⟩ :=
  (readStatements_exhausted _).unique (.intro program remainder failure refused)

theorem parseWords_words (program : Program) : parseWords program.words = .ok program.tokens := by
  have reading := readStatements_append program .ended
  rw [List.append_nil] at reading
  rw [parseWords, reading]
  exact congrArg Except.ok (tokens_map_token program.tokens)

theorem parseWords_append_of_refused (program : Program) {remainder : List Word} {failure : Failure}
    (refused : Refused remainder failure) (nonempty : remainder ≠ []) :
    parseWords (program.words ++ remainder) = .error failure := by
  have leftOver : remainder.isEmpty = false := List.isEmpty_eq_false_iff.2 nonempty
  rw [parseWords, readStatements_append program refused, tokensOfReading, leftOver]
  rfl

/-- Words are statements, or statements in front of words that are refused. -/
theorem exists_reading (words : List Word) :
    ∃ (program : Program) (remainder : List Word) (failure : Failure),
      words = program.words ++ remainder ∧ Refused remainder failure := by
  have exhausted := readStatements_exhausted words
  generalize readStatements words = reading at exhausted
  cases exhausted with
  | intro program remainder failure refused => exact ⟨program, remainder, failure, rfl, refused⟩

/-- The parser accepts exactly the words that the grammar derives. -/
theorem parseWords_eq_ok_iff {words : List Word} {tokens : List Token} :
    parseWords words = .ok tokens ↔
      ∃ program : Program, program.words = words ∧ program.tokens = tokens := by
  constructor
  · intro parsed
    obtain ⟨program, remainder, failure, rfl, refused⟩ := exists_reading words
    by_cases nonempty : remainder = []
    · subst nonempty
      rw [List.append_nil, parseWords_words] at parsed
      exact ⟨program, (List.append_nil _).symm, Except.ok.inj parsed⟩
    · rw [parseWords_append_of_refused program refused nonempty] at parsed
      cases parsed
  · rintro ⟨program, rfl, rfl⟩
    exact parseWords_words program

/-- A text is refused because of the words that are left after some statements and begin no more. -/
theorem parse_eq_error_iff {text : String} {failure : Failure} :
    parse text = .error failure ↔ ∃ (before : Program) (remainder : List Word),
      Text.words text = before.words ++ remainder ∧ remainder ≠ [] ∧ Refused remainder failure := by
  rw [parse]
  constructor
  · intro told
    obtain ⟨before, remainder, reason, words, refused⟩ := exists_reading (Text.words text)
    rw [words] at told
    by_cases nonempty : remainder = []
    · rw [nonempty, List.append_nil, parseWords_words] at told
      cases told
    · rw [parseWords_append_of_refused before refused nonempty] at told
      cases told
      exact ⟨before, remainder, words, nonempty, refused⟩
  · rintro ⟨before, remainder, words, nonempty, refused⟩
    rw [words]
    exact parseWords_append_of_refused before refused nonempty

/-- A text is read as the tokens of its derivation. There is at most one derivation, and a text
that has none is refused with an error of reading. -/
theorem parse_eq_ok_iff_derivation (text : String) :
    (∀ tokens, parse text = .ok tokens ↔
      ∃ program : Program, program.words = Text.words text ∧ program.tokens = tokens) ∧
    (∀ left right : Program, left.words = Text.words text → right.words = Text.words text →
      left = right) ∧
    ((¬∃ program : Program, program.words = Text.words text) →
      ∃ failure, parse text = .error failure ∧
        failure.diagnostic.kind.isA .unreadable = true) := by
  refine ⟨fun tokens => parseWords_eq_ok_iff, fun left right leftWords rightWords =>
    Program.words_injective (leftWords.trans rightWords.symm), fun noDerivation => ?_⟩
  cases parsed : parse text with
  | ok tokens =>
    obtain ⟨program, words, -⟩ := parseWords_eq_ok_iff.1 parsed
    exact absurd ⟨program, words⟩ noDerivation
  | error failure =>
    refine ⟨failure, rfl, ?_⟩
    unfold Failure.diagnostic
    cases failure.isIncomplete <;> rfl

end Forth.Syntax
