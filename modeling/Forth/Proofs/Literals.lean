/-
This file says that integers are printed exactly as far as they can be read. An
integer can be printed if and only if it has no more digits than a literal may
have. Its text is a literal then, and a program that consists of this text pushes
the integer and does nothing else.

A literal may have a plus sign and zeros in front that are not printed, so its
integer is printed with no more characters than the literal has.
-/

import Forth.Proofs.Accident
import Forth.Proofs.Writing

namespace Forth.Syntax

/-! ### Literals -/

/-- Whether a word is an integer literal: a sign, which may be left out, and between one and 4300
digits. Leading zeros count as digits, and the sign does not. -/
def IsLiteral (word : Word) : Prop :=
  ∃ sign digits : String, word = sign ++ digits ∧ sign ∈ ["", "+", "-"] ∧
    digits.toList.all Text.isDigit = true ∧ 1 ≤ digits.length ∧ digits.length ≤ 4300

/-- The literals are the words of numerals. -/
theorem isLiteral_iff {word : Word} : IsLiteral word ↔ ∃ numeral : Numeral, numeral.word = word := by
  constructor
  · rintro ⟨signText, text, rfl, listed, allDigits, nonempty, short⟩
    obtain ⟨digits, spelled⟩ := exists_digits allDigits
    have length : digits.length = text.length := by
      rw [← List.length_map digitCharacter, spelled, String.length_toList]
    obtain ⟨sign, rfl⟩ : ∃ sign : Sign, String.ofList sign.characters = signText := by
      simp only [List.mem_cons, List.not_mem_nil, or_false] at listed
      obtain rfl | rfl | rfl := listed
      · exact ⟨.absent, rfl⟩
      · exact ⟨.plus, rfl⟩
      · exact ⟨.minus, rfl⟩
    refine ⟨⟨sign, digits, List.ne_nil_of_length_pos (length ▸ nonempty), length ▸ short⟩, ?_⟩
    rw [Numeral.word, spelled, String.ofList_append, String.ofList_toList]
  · rintro ⟨⟨sign, digits, nonempty, short⟩, rfl⟩
    refine ⟨String.ofList sign.characters, String.ofList (digits.map digitCharacter),
      String.ofList_append, ?_, ?_, ?_, ?_⟩
    · cases sign <;> decide
    · rw [String.toList_ofList, List.all_map, List.all_eq_true]
      exact fun digit _ => isDigit_digitCharacter digit
    · rw [String.length_ofList, List.length_map]
      exact List.length_pos_iff.2 nonempty
    · rw [String.length_ofList, List.length_map]
      exact short

/-- The parser for numbers accepts the words of numerals, and makes of each the token that pushes what
it means. -/
theorem accept_number_eq_some_iff {word : Word} {made : Parser.Match} :
    Grammar.number.accept word = some made ↔
      ∃ numeral : Numeral, numeral.word = word ∧ made = .token (.push (.int numeral.value)) := by
  constructor
  · intro accepted
    obtain ⟨value, read, rfl⟩ := Option.map_eq_some_iff.1 accepted
    obtain ⟨numeral, spelled, rfl⟩ := Numeral.exists_of_readInt? read
    exact ⟨numeral, spelled, rfl⟩
  · rintro ⟨numeral, rfl, rfl⟩
    exact congrArg (Option.map _) numeral.readInt?_word

/-- A numeral by itself is a program that pushes what it means. -/
theorem parse_numeral (numeral : Numeral) :
    parse numeral.word = .ok [.push (.int numeral.value)] := by
  rw [parse, Text.words_of_isWord numeral.isWord]
  exact parseWords_words [.atom (.number numeral)]

/-! ### Printing an integer -/

/-- The integer on top of the stack is printed and removed if it has a text. -/
theorem execute_pop_int_eq_ok_iff {value : Int} {arguments rest : List Number} {text : String}
    {next : Stack} :
    (Stack.ofList (.int value :: rest)).execute .pop arguments = .ok (text, next) ↔
      Number.intText? value = some text ∧ next = Stack.ofList rest := by
  rw [Stack.execute_ofList, Opcode.effect, Number.text?]
  cases Number.intText? value <;> simp [Except.map, eq_comm]

/-- Integers are printed exactly as far as literals reach. An integer is printed if and only if it has
at most 4300 digits; the text is a word, which is read as this integer and as nothing else. What a
literal means can be printed, with no more characters than the literal has, and the text means the
same. The literals are the words that the parser for numbers accepts. -/
theorem printed_iff_literal :
    (∀ (value : Int) (arguments rest : List Number),
      ((∃ text next, (Stack.ofList (.int value :: rest)).execute .pop arguments = .ok (text, next)) ↔
        value.natAbs < 10 ^ 4300) ∧
      ∀ text next, (Stack.ofList (.int value :: rest)).execute .pop arguments = .ok (text, next) →
        next = Stack.ofList rest ∧ Text.IsWord text ∧
        ∀ tokens, parse text = .ok tokens ↔ tokens = [.push (.int value)]) ∧
    (∀ word made, Grammar.number.accept word = some made →
      ∃ value, made = .token (.push (.int value)) ∧ ∀ rest, ∃ text,
        (Stack.ofList rest).execute .push [.int value] =
          .ok ("", Stack.ofList (.int value :: rest)) ∧
        (Stack.ofList (.int value :: rest)).execute .pop [] = .ok (text, Stack.ofList rest) ∧
        Grammar.number.accept text = some made ∧ text.length ≤ word.length) ∧
    ∀ word, (Grammar.number.accept word).isSome = true ↔ IsLiteral word := by
  refine ⟨fun value arguments rest => ⟨?_, fun text next printed => ?_⟩,
    fun word made accepted => ?_, fun word => ?_⟩
  · have limit : Number.digitLimit = 4300 := rfl
    simp only [execute_pop_int_eq_ok_iff, exists_and_left, exists_eq, and_true]
    rw [Number.exists_intText?_iff, limit]
  · obtain ⟨written, rfl⟩ := execute_pop_int_eq_ok_iff.1 printed
    obtain ⟨numeral, rfl, rfl⟩ := Number.exists_numeral_of_intText? written
    refine ⟨rfl, numeral.isWord, fun tokens => ?_⟩
    rw [parse_numeral, Except.ok.injEq, eq_comm]
  · obtain ⟨numeral, rfl, rfl⟩ := accept_number_eq_some_iff.1 accepted
    obtain ⟨text, written⟩ := Number.exists_intText?_iff.2 numeral.natAbs_value_lt
    obtain ⟨printed, spelled, means⟩ := Number.exists_numeral_of_intText? written
    refine ⟨numeral.value, rfl, fun rest => ⟨text, rfl, ?_, ?_, ?_⟩⟩
    · exact execute_pop_int_eq_ok_iff.2 ⟨written, rfl⟩
    · exact accept_number_eq_some_iff.2 ⟨printed, spelled, by rw [means]⟩
    · exact Number.length_le_of_intText? written
  · rw [isLiteral_iff, Option.isSome_iff_exists]
    simp [accept_number_eq_some_iff]

/-- The sign and the zeros of this literal are not printed. -/
example : Grammar.number.accept "+007" = some (.token (.push (.int 7))) ∧
    (Stack.ofList [.int 7]).execute .pop [] = .ok ("7", Stack.empty) := by
  constructor <;> rfl

end Forth.Syntax
