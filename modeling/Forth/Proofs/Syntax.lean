/-
This file describes how statements are built from words, apart from the parser.
A syntax tree is a derivation of the grammar

  program   ::= statement*
  statement ::= atom | ':' name statement+ ';'

with the words of the language at its leaves, so there is no tree that does not
follow the rules. A tree spells words and stands for a token.

The main statement is that words determine the tree: a statement ends where its
words say, whatever follows, so a program is read from left to right without
ever going back.
-/

import Forth.Proofs.Lexicon

namespace Forth.Syntax

/-! ### Syntax trees -/

/-- A statement: a word by itself, or the definition of a name by one or more statements. -/
inductive Statement where
  | atom (atom : Atom)
  | definition (name : Name) (first : Statement) (others : List Statement)

/-- The statements of a program, or of the body of a definition. -/
abbrev Program := List Statement

/-- The word that opens a definition. -/
def openingWord : Word := ":"

/-- The word that closes a definition. -/
abbrev closingWord : Word := Parser.Failure.closingWord

mutual

/-- The words of a statement. -/
def Statement.words : Statement → List Word
  | .atom leaf => [leaf.word]
  | .definition name first others =>
    openingWord :: name.word :: (first.words ++ Program.words others ++ [closingWord])

/-- The words of several statements. -/
def Program.words : Program → List Word
  | [] => []
  | statement :: rest => statement.words ++ Program.words rest

end

mutual

/-- The token that a statement stands for. The token of a definition holds those of its body. -/
def Statement.token : Statement → Token
  | .atom leaf => leaf.token
  | .definition name first others => .store name.word (first.token :: Program.tokens others)

/-- The tokens that several statements stand for. -/
def Program.tokens : Program → List Token
  | [] => []
  | statement :: rest => statement.token :: Program.tokens rest

end

/-- What holds of all atoms, and of a definition whenever it holds of the statements in its body,
holds of all statements. -/
@[elab_as_elim, induction_eliminator]
theorem Statement.induction {motive : Statement → Prop} (atom : ∀ leaf, motive (.atom leaf))
    (definition : ∀ name first others, (∀ statement ∈ first :: others, motive statement) →
      motive (.definition name first others)) (statement : Statement) : motive statement :=
  match statement with
  | .atom leaf => atom leaf
  | .definition name first others =>
    definition name first others fun inner member =>
      have : sizeOf inner < sizeOf (Statement.definition name first others) := by
        rcases List.mem_cons.1 member with rfl | member
        · simp; omega
        · have := List.sizeOf_lt_of_mem member
          simp; omega
      Statement.induction atom definition inner

namespace Program

theorem words_cons (statement : Statement) (rest : Program) :
    words (statement :: rest) = statement.words ++ words rest := by
  rw [words]

theorem words_append (front back : Program) : words (front ++ back) = words front ++ words back := by
  induction front with
  | nil => rfl
  | cons statement rest inductionHypothesis =>
    rw [List.cons_append, words_cons, words_cons, inductionHypothesis, List.append_assoc]

end Program

theorem Statement.words_definition (name : Name) (first : Statement) (others : Program) :
    (Statement.definition name first others).words =
      openingWord :: name.word :: (Program.words (first :: others) ++ [closingWord]) := by
  rw [Statement.words, Program.words_cons]

theorem Statement.token_definition (name : Name) (first : Statement) (others : Program) :
    (Statement.definition name first others).token =
      .store name.word (Program.tokens (first :: others)) := by
  rw [Statement.token, Program.tokens]

/-! ### Where statements begin -/

/-- Words that no statement begins. -/
def Barren (words : List Word) : Prop :=
  ∀ (statement : Statement) (rest : List Word), words ≠ statement.words ++ rest

theorem atomToken?_openingWord : atomToken? openingWord = none := by
  decide

theorem atomToken?_closingWord : atomToken? closingWord = none := by
  decide

theorem Atom.word_ne_openingWord (leaf : Atom) : leaf.word ≠ openingWord := by
  intro same
  have notAtom := atomToken?_openingWord
  rw [← same, leaf.atomToken?_word] at notAtom
  cases notAtom

/-- A statement begins with an atom or with the word that opens a definition. -/
theorem Statement.exists_words (statement : Statement) :
    ∃ word rest, statement.words = word :: rest ∧
      (word = openingWord ∨ ∃ token, atomToken? word = some token) := by
  cases statement with
  | atom leaf => exact ⟨_, [], rfl, .inr ⟨_, leaf.atomToken?_word⟩⟩
  | definition name first others => exact ⟨_, _, by rw [words], .inl rfl⟩

theorem Statement.words_length_pos (statement : Statement) : 0 < statement.words.length := by
  obtain ⟨word, rest, words, -⟩ := statement.exists_words
  rw [words]
  exact Nat.zero_lt_succ _

theorem barren_nil : Barren [] := by
  intro statement rest same
  obtain ⟨word, others, words, -⟩ := statement.exists_words
  rw [words] at same
  cases same

theorem barren_cons {word : Word} (notAtom : atomToken? word = none) (notOpening : word ≠ openingWord)
    (rest : List Word) : Barren (word :: rest) := by
  intro statement after same
  obtain ⟨first, others, words, opening | ⟨token, atom⟩⟩ := statement.exists_words
  · rw [words] at same
    exact notOpening ((List.cons.inj same).1.trans opening)
  · rw [words] at same
    rw [(List.cons.inj same).1, atom] at notAtom
    cases notAtom

theorem barren_closingWord (rest : List Word) : Barren (closingWord :: rest) :=
  barren_cons atomToken?_closingWord (by decide) rest

/-! ### Words determine the tree -/

/-- A statement ends where its words say: no other statement begins with them, and what follows
them is what is left. -/
def Statement.Definite (statement : Statement) : Prop :=
  ∀ (other : Statement) (rest otherRest : List Word),
    statement.words ++ rest = other.words ++ otherRest → statement = other ∧ rest = otherRest

/-- Statements that end where their words say can be read one after the other, up to words that
begin no statement. -/
theorem Program.definite_of_forall {left right : Program} {leftRest rightRest : List Word}
    (definite : ∀ statement ∈ left, statement.Definite) (leftEnd : Barren leftRest)
    (rightEnd : Barren rightRest) (same : words left ++ leftRest = words right ++ rightRest) :
    left = right ∧ leftRest = rightRest := by
  induction left generalizing right with
  | nil =>
    cases right with
    | nil => exact ⟨rfl, same⟩
    | cons statement others =>
      rw [words_cons, List.append_assoc] at same
      exact absurd same (leftEnd statement _)
  | cons statement rest inductionHypothesis =>
    cases right with
    | nil =>
      rw [words_cons, List.append_assoc] at same
      exact absurd same.symm (rightEnd statement _)
    | cons other others =>
      rw [words_cons, words_cons, List.append_assoc, List.append_assoc] at same
      obtain ⟨rfl, after⟩ := definite statement List.mem_cons_self other _ _ same
      obtain ⟨rfl, ends⟩ := inductionHypothesis
        (fun inner member => definite inner (List.mem_cons_of_mem _ member)) after
      exact ⟨rfl, ends⟩

theorem Statement.definite (statement : Statement) : statement.Definite := by
  induction statement with
  | atom leaf =>
    intro other rest otherRest same
    cases other with
    | atom otherLeaf =>
      obtain ⟨word, rests⟩ := List.cons.inj same
      exact ⟨congrArg _ (Atom.word_injective word), rests⟩
    | definition name first others =>
      rw [words, words] at same
      exact absurd (List.cons.inj same).1 leaf.word_ne_openingWord
  | definition name first others inductionHypothesis =>
    intro other rest otherRest same
    cases other with
    | atom otherLeaf =>
      rw [words, words] at same
      exact absurd (List.cons.inj same).1.symm otherLeaf.word_ne_openingWord
    | definition otherName otherFirst otherOthers =>
      simp only [words_definition, List.cons_append, List.append_assoc, List.cons.injEq,
        true_and] at same
      obtain ⟨names, same⟩ := same
      obtain ⟨bodies, ends⟩ := Program.definite_of_forall inductionHypothesis
        (barren_closingWord rest) (barren_closingWord otherRest) same
      obtain ⟨rfl, rfl⟩ := List.cons.inj bodies
      cases Name.word_injective names
      exact ⟨rfl, (List.cons.inj ends).2⟩

namespace Program

/-- Words that consist of statements and then begin no more do so in one way only. -/
theorem definite {left right : Program} {leftRest rightRest : List Word}
    (leftEnd : Barren leftRest) (rightEnd : Barren rightRest)
    (same : words left ++ leftRest = words right ++ rightRest) :
    left = right ∧ leftRest = rightRest :=
  definite_of_forall (fun statement _ => statement.definite) leftEnd rightEnd same

/-- A program can be read in one way only. -/
theorem words_injective : Function.Injective words := by
  intro left right same
  have ends : words left ++ [] = words right ++ [] := by rw [same]
  exact (definite barren_nil barren_nil ends).1

end Program

end Forth.Syntax
