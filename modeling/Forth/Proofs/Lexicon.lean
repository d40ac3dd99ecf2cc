/-
This file describes the words of the language apart from the parser that
recognizes them. A word of each kind carries the proof that it is one. The
statements say which test of the parser recognizes which kind, and that a word
is never of two kinds: a numeral is neither an operation nor a name, and a name
that is spelled like an operation refers to nothing.
-/

import Forth.Grammar
import Mathlib.Data.List.Basic
import Mathlib.Data.Nat.Digits.Defs

namespace Forth.Syntax

open Forth.Grammar (isName operation? operations)

/-! ### Numerals -/

/-- The sign of a numeral, which may be left out. -/
inductive Sign where
  | absent
  | plus
  | minus

/-- A sign as it is written. -/
def Sign.characters : Sign → List Char
  | .absent => []
  | .plus => ['+']
  | .minus => ['-']

/-- The integer of a sign and a magnitude. -/
def Sign.apply : Sign → Nat → Int
  | .minus, magnitude => -magnitude
  | _, magnitude => magnitude

/-- A digit as it is written. -/
def digitCharacter (digit : Fin 10) : Char :=
  Nat.digitChar digit

/-- A written integer: one or more digits, up to the limit, after at most one sign. -/
structure Numeral where
  sign : Sign
  digits : List (Fin 10)
  nonempty : digits ≠ []
  short : digits.length ≤ Number.digitLimit

namespace Numeral

/-- The word that a numeral is. -/
def word (numeral : Numeral) : Word :=
  String.ofList (numeral.sign.characters ++ numeral.digits.map digitCharacter)

/-- The integer that a numeral means, in the decimal system. -/
def value (numeral : Numeral) : Int :=
  numeral.sign.apply (Nat.ofDigits 10 (numeral.digits.map Fin.val).reverse)

/-- Whether a numeral has a sign only if it is negative, and no zero in front of other digits. -/
structure IsPlain (numeral : Numeral) : Prop where
  sign : numeral.sign = if numeral.value < 0 then .minus else .absent
  leading : ∀ rest, numeral.digits = 0 :: rest → rest = []

end Numeral

theorem isDigit_digitCharacter (digit : Fin 10) : Text.isDigit (digitCharacter digit) = true := by
  revert digit
  decide

theorem digitCharacter_injective : Function.Injective digitCharacter := by
  intro first second
  revert first second
  decide

theorem exists_digitCharacter {character : Char} (isDigit : Text.isDigit character = true) :
    ∃ digit, digitCharacter digit = character := by
  simp only [Text.isDigit, Bool.and_eq_true, decide_eq_true_eq] at isDigit
  have least : 48 ≤ character.toNat := isDigit.1
  have most : character.toNat ≤ 57 := isDigit.2
  refine ⟨⟨character.toNat - 48, by omega⟩, Char.toNat_inj.1 ?_⟩
  have written := Nat.toNat_digitChar_of_lt_ten (n := character.toNat - 48) (by omega)
  exact written.trans (by omega)

theorem exists_digits {characters : List Char} (digits : characters.all Text.isDigit = true) :
    ∃ read : List (Fin 10), read.map digitCharacter = characters := by
  induction characters with
  | nil => exact ⟨[], rfl⟩
  | cons character rest inductionHypothesis =>
    rw [List.all_cons, Bool.and_eq_true] at digits
    obtain ⟨digit, rfl⟩ := exists_digitCharacter digits.1
    obtain ⟨read, rfl⟩ := inductionHypothesis digits.2
    exact ⟨digit :: read, rfl⟩

/-- Reading digits from left to right gives their value in the decimal system. -/
theorem ofDigitChars_digits (digits : List (Fin 10)) :
    Nat.ofDigitChars 10 (digits.map digitCharacter) 0 =
      Nat.ofDigits 10 (digits.map Fin.val).reverse := by
  rw [Nat.ofDigits_eq_foldr, List.foldr_reverse, Nat.ofDigitChars_eq_foldl, List.foldl_map,
    List.foldl_map]
  refine congrArg (fun step => List.foldl step 0 digits) (funext₂ fun value digit => ?_)
  have same : (digitCharacter digit).toNat - '0'.toNat = digit :=
    Nat.toNat_digitChar_sub_48_of_lt_ten digit.isLt
  rw [same, Nat.add_comm]
  rfl

theorem Sign.natAbs_apply (sign : Sign) (magnitude : Nat) :
    (sign.apply magnitude).natAbs = magnitude := by
  cases sign with
  | absent | plus => exact Int.natAbs_natCast _
  | minus => exact (Int.natAbs_neg _).trans (Int.natAbs_natCast _)

/-- The value of digits is less than the power of ten with one more digit. -/
theorem ofDigits_lt (digits : List (Fin 10)) :
    Nat.ofDigits 10 (digits.map Fin.val).reverse < 10 ^ digits.length := by
  have least : ∀ digit ∈ (digits.map Fin.val).reverse, digit < 10 := by
    intro digit member
    obtain ⟨original, -, rfl⟩ := List.mem_map.1 (List.mem_reverse.1 member)
    exact original.isLt
  have bounded := Nat.ofDigits_lt_base_pow_length (by decide) least
  rwa [List.length_reverse, List.length_map] at bounded

theorem Numeral.natAbs_value_lt_pow_length (numeral : Numeral) :
    numeral.value.natAbs < 10 ^ numeral.digits.length := by
  rw [value, Sign.natAbs_apply]
  exact ofDigits_lt numeral.digits

theorem readDigits?_eq_some_iff {characters : List Char} {magnitude : Nat} :
    Number.readDigits? characters = some magnitude ↔
      ∃ digits : List (Fin 10), digits ≠ [] ∧ digits.length ≤ Number.digitLimit ∧
        digits.map digitCharacter = characters ∧
        Nat.ofDigits 10 (digits.map Fin.val).reverse = magnitude := by
  unfold Number.readDigits?
  constructor
  · intro read
    split at read
    next => cases read
    next accepted =>
      simp only [Bool.or_eq_true, Bool.not_eq_true', decide_eq_true_eq, not_or,
        Bool.not_eq_false, not_lt, Bool.not_eq_true] at accepted
      obtain ⟨⟨nonempty, allDigits⟩, short⟩ := accepted
      obtain ⟨digits, rfl⟩ := exists_digits allDigits
      rw [ofDigitChars_digits] at read
      refine ⟨digits, ?_, by simpa using short, rfl, Option.some.inj read⟩
      rintro rfl
      simp at nonempty
  · rintro ⟨digits, nonempty, short, rfl, rfl⟩
    rw [if_neg, ofDigitChars_digits]
    simp [nonempty, short, isDigit_digitCharacter]

namespace Numeral

theorem readInt?_word (numeral : Numeral) : Number.readInt? numeral.word = some numeral.value := by
  obtain ⟨sign, digits, nonempty, short⟩ := numeral
  have read : Number.readDigits? (digits.map digitCharacter) =
      some (Nat.ofDigits 10 (digits.map Fin.val).reverse) :=
    readDigits?_eq_some_iff.2 ⟨digits, nonempty, short, rfl, rfl⟩
  unfold Number.readInt? word value
  rw [String.toList_ofList]
  cases sign with
  | absent =>
    obtain ⟨first, rest, rfl⟩ := List.exists_cons_of_ne_nil nonempty
    have noSign := isDigit_digitCharacter first
    split
    next same =>
      injection same with head
      rw [head] at noSign
      cases noSign
    next same =>
      injection same with head
      rw [head] at noSign
      cases noSign
    next => exact congrArg (Option.map _) read
  | plus => exact congrArg (Option.map _) read
  | minus => exact congrArg (Option.map _) read

/-- Whatever is read as an integer is a numeral. -/
theorem exists_of_readInt? {word : Word} {value : Int}
    (read : Number.readInt? word = some value) :
    ∃ numeral : Numeral, numeral.word = word ∧ numeral.value = value := by
  have ofDigits {characters : List Char} {magnitude : Nat} (sign : Sign)
      (spelled : word.toList = sign.characters ++ characters)
      (readDigits : Number.readDigits? characters = some magnitude) :
      ∃ numeral : Numeral, numeral.word = word ∧ numeral.value = sign.apply magnitude := by
    obtain ⟨digits, nonempty, short, rfl, rfl⟩ := readDigits?_eq_some_iff.1 readDigits
    refine ⟨⟨sign, digits, nonempty, short⟩, ?_, rfl⟩
    rw [Numeral.word, ← spelled, String.ofList_toList]
  unfold Number.readInt? at read
  split at read
  next digits spelled =>
    obtain ⟨magnitude, readDigits, rfl⟩ := Option.map_eq_some_iff.1 read
    exact ofDigits .minus spelled readDigits
  next digits spelled =>
    obtain ⟨magnitude, readDigits, rfl⟩ := Option.map_eq_some_iff.1 read
    exact ofDigits .plus spelled readDigits
  next =>
    obtain ⟨magnitude, readDigits, rfl⟩ := Option.map_eq_some_iff.1 read
    exact ofDigits .absent rfl readDigits

/-- A numeral can be read in one way only. -/
theorem word_injective : Function.Injective word := by
  intro left right same
  obtain ⟨leftSign, leftDigits, leftNonempty, leftShort⟩ := left
  obtain ⟨rightSign, rightDigits, rightNonempty, rightShort⟩ := right
  have characters : leftSign.characters ++ leftDigits.map digitCharacter =
      rightSign.characters ++ rightDigits.map digitCharacter := String.ofList_injective same
  have signs : leftSign = rightSign := by
    obtain ⟨leftFirst, leftRest, rfl⟩ := List.exists_cons_of_ne_nil leftNonempty
    obtain ⟨rightFirst, rightRest, rfl⟩ := List.exists_cons_of_ne_nil rightNonempty
    have noSign : ∀ digit, digitCharacter digit ≠ '+' ∧ digitCharacter digit ≠ '-' := by decide
    have heads := congrArg List.head? characters
    cases leftSign with
    | absent =>
      cases rightSign with
      | absent => rfl
      | plus => exact absurd (Option.some.inj heads) (noSign leftFirst).1
      | minus => exact absurd (Option.some.inj heads) (noSign leftFirst).2
    | plus =>
      cases rightSign with
      | absent => exact absurd (Option.some.inj heads).symm (noSign rightFirst).1
      | plus => rfl
      | minus => exact absurd (Option.some.inj heads) (by decide)
    | minus =>
      cases rightSign with
      | absent => exact absurd (Option.some.inj heads).symm (noSign rightFirst).2
      | plus => exact absurd (Option.some.inj heads) (by decide)
      | minus => rfl
  subst signs
  have digits : leftDigits = rightDigits :=
    List.map_injective_iff.2 digitCharacter_injective (List.append_cancel_left characters)
  subst digits
  rfl

end Numeral

/-! ### Operations and names -/

/-- A word for an operation, in capitals or small letters. -/
structure Operation where
  word : Word
  opcode : Opcode
  listed : (Text.capitals word, opcode) ∈ operations

/-- A word that can name a definition. -/
structure Name where
  word : Word
  valid : isName word = true

/-- A name that refers to a definition, because it is not spelled like an operation. -/
structure Reference where
  name : Name
  free : ∀ opcode, (Text.capitals name.word, opcode) ∉ operations

/-- An operation is looked up by its word in capitals. -/
theorem operation?_eq_some_iff {word : Word} {opcode : Opcode} :
    operation? word = some opcode ↔ (Text.capitals word, opcode) ∈ operations := by
  unfold operation?
  constructor
  · intro found
    obtain ⟨before, after, split, -⟩ := List.lookup_eq_some_iff.1 found
    rw [split]
    exact List.mem_append_right _ List.mem_cons_self
  · intro listed
    simp only [operations, List.mem_cons, Prod.mk.injEq, List.not_mem_nil, or_false] at listed
    rcases listed with ⟨same, rfl⟩ | ⟨same, rfl⟩ | ⟨same, rfl⟩ | ⟨same, rfl⟩ | ⟨same, rfl⟩ |
      ⟨same, rfl⟩ | ⟨same, rfl⟩ | ⟨same, rfl⟩ | ⟨same, rfl⟩ <;> rw [same] <;> rfl

/-- A word that is not looked up as an operation is spelled like none. -/
theorem free_of_operation? {word : Word} (notFound : operation? word = none) (opcode : Opcode) :
    (Text.capitals word, opcode) ∉ operations := by
  intro listed
  rw [operation?_eq_some_iff.2 listed] at notFound
  cases notFound

theorem Operation.operation?_word (operation : Operation) :
    operation? operation.word = some operation.opcode :=
  operation?_eq_some_iff.2 operation.listed

theorem Operation.word_injective : Function.Injective Operation.word := by
  intro left right same
  obtain ⟨word, leftOpcode, leftListed⟩ := left
  obtain ⟨_, rightOpcode, rightListed⟩ := right
  cases same
  have opcodes := (operation?_eq_some_iff.2 leftListed).symm.trans
    (operation?_eq_some_iff.2 rightListed)
  cases opcodes
  rfl

theorem Name.word_injective : Function.Injective Name.word := by
  rintro ⟨word, _⟩ ⟨_, _⟩ rfl
  rfl

theorem Reference.word_injective :
    Function.Injective fun reference : Reference => reference.name.word := by
  rintro ⟨⟨word, _⟩, _⟩ ⟨⟨_, _⟩, _⟩ same
  cases same
  rfl

theorem Reference.operation?_word (reference : Reference) :
    operation? reference.name.word = none := by
  cases found : operation? reference.name.word with
  | none => rfl
  | some opcode => exact absurd (operation?_eq_some_iff.1 found) (reference.free opcode)

/-! ### The kinds of words exclude each other -/

theorem operation?_numeral (numeral : Numeral) : operation? numeral.word = none := by
  obtain ⟨digit, member⟩ := List.exists_mem_of_ne_nil _ numeral.nonempty
  cases found : operation? numeral.word with
  | none => rfl
  | some opcode =>
    have listed := operation?_eq_some_iff.1 found
    have inCapitals : digitCharacter digit ∈ (Text.capitals numeral.word).toList := by
      have unchanged : ∀ digit, Text.capital (digitCharacter digit) = digitCharacter digit := by
        decide
      rw [Text.capitals, String.toList_ofList, ← unchanged digit]
      refine List.mem_map_of_mem ?_
      rw [Numeral.word, String.toList_ofList]
      exact List.mem_append_right _ (List.mem_map_of_mem member)
    have noDigits : ∀ entry ∈ operations, ∀ digit, digitCharacter digit ∉ entry.1.toList := by
      decide
    exact absurd inCapitals (noDigits _ listed digit)

theorem isName_numeral (numeral : Numeral) : isName numeral.word = false := by
  obtain ⟨sign, digits, nonempty, short⟩ := numeral
  obtain ⟨first, rest, rfl⟩ := List.exists_cons_of_ne_nil nonempty
  have noStart : ∀ digit, Text.isNameStart (digitCharacter digit) = false := by decide
  unfold isName Numeral.word
  rw [String.toList_ofList]
  cases sign with
  | absent => simp only [Sign.characters, List.nil_append, List.map_cons, noStart, Bool.false_and]
  | plus => rfl
  | minus => rfl

theorem Name.readInt?_word (name : Name) : Number.readInt? name.word = none := by
  cases read : Number.readInt? name.word with
  | none => rfl
  | some value =>
    obtain ⟨numeral, same, -⟩ := Numeral.exists_of_readInt? read
    have notName := isName_numeral numeral
    rw [same, name.valid] at notName
    cases notName

/-! ### Words that are statements -/

/-- A statement of one word. -/
inductive Atom where
  | operation (operator : Operation)
  | number (numeral : Numeral)
  | reference (link : Reference)

namespace Atom

/-- The word that an atom is. -/
def word : Atom → Word
  | .operation operator => operator.word
  | .number numeral => numeral.word
  | .reference link => link.name.word

/-- The token that an atom stands for. -/
def token : Atom → Token
  | .operation operator => .operation operator.opcode []
  | .number numeral => .push (.int numeral.value)
  | .reference link => .search link.name.word

end Atom

/-- The token of a word that is a statement by itself, in the order in which the parser tries the
kinds of words. -/
def atomToken? (word : Word) : Option Token :=
  match operation? word with
  | some opcode => some (.operation opcode [])
  | none =>
    match Number.readInt? word with
    | some value => some (.push (.int value))
    | none => if isName word then some (.search word) else none

namespace Atom

theorem atomToken?_word (atom : Atom) : atomToken? atom.word = some atom.token := by
  unfold atomToken?
  cases atom with
  | operation operator => simp only [word, token, operator.operation?_word]
  | number numeral => simp only [word, token, operation?_numeral, numeral.readInt?_word]
  | reference link =>
    simp only [word, token, link.operation?_word, link.name.readInt?_word, link.name.valid,
      if_true]

theorem exists_of_atomToken? {word : Word} {token : Token} (read : atomToken? word = some token) :
    ∃ atom : Atom, atom.word = word ∧ atom.token = token := by
  unfold atomToken? at read
  split at read
  next opcode found =>
    cases read
    exact ⟨.operation ⟨word, opcode, operation?_eq_some_iff.1 found⟩, rfl, rfl⟩
  next noOperation =>
    split at read
    next value readInt =>
      cases read
      obtain ⟨numeral, rfl, rfl⟩ := Numeral.exists_of_readInt? readInt
      exact ⟨.number numeral, rfl, rfl⟩
    next =>
      split at read
      next valid =>
        cases read
        exact ⟨.reference ⟨⟨word, valid⟩, free_of_operation? noOperation⟩, rfl, rfl⟩
      next => cases read

/-- A word is an atom in one way only. -/
theorem word_injective : Function.Injective word := by
  intro left right same
  have tokens : left.token = right.token := by
    have read := left.atomToken?_word
    rw [same, right.atomToken?_word] at read
    exact (Option.some.inj read).symm
  cases left with
  | operation left =>
    cases right with
    | operation right => exact congrArg _ (Operation.word_injective same)
    | number => injection tokens with _ arguments; cases arguments
    | reference => cases tokens
  | number left =>
    cases right with
    | operation => injection tokens with _ arguments; cases arguments
    | number right => exact congrArg _ (Numeral.word_injective same)
    | reference => cases tokens
  | reference left =>
    cases right with
    | operation => cases tokens
    | number => cases tokens
    | reference right => exact congrArg _ (Reference.word_injective same)

end Atom

end Forth.Syntax
