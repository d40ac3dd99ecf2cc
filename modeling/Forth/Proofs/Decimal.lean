/-
This file says how numbers are written. A number has a text unless it is an
integer with more digits than are allowed. The text of an integer is a numeral,
and the numeral means this integer, so what is written can be read back. It is the
shortest of all such numerals. The text of a number is never empty.
-/

import Forth.Proofs.Lexicon
import Mathlib.Algebra.Order.Ring.Nat

namespace Forth.Number

/-! ### Numbers that have a text -/

/-- An integer has no text if and only if it has too many digits. -/
theorem intText?_eq_none_iff {value : Int} :
    intText? value = none ↔ 10 ^ digitLimit ≤ value.natAbs := by
  have limitPos : 0 < digitLimit := by decide
  have short : (Nat.toDigits 10 value.natAbs).length ≤ digitLimit ↔
      value.natAbs < 10 ^ digitLimit := Nat.length_toDigits_le_iff (by decide) limitPos
  unfold intText?
  split
  next wide =>
    -- A number with four bits for each digit is at least the power of sixteen.
    have positive : value.natAbs ≠ 0 := by
      intro zero
      rw [zero, Nat.log2_zero] at wide
      omega
    have bound : 10 ^ digitLimit ≤ value.natAbs :=
      calc 10 ^ digitLimit ≤ (2 ^ 4) ^ digitLimit := Nat.pow_le_pow_left (by decide) _
        _ = 2 ^ (4 * digitLimit) := (Nat.pow_mul 2 4 digitLimit).symm
        _ ≤ value.natAbs := (Nat.le_log2 positive).1 wide
    exact ⟨fun _ => bound, fun _ => rfl⟩
  next =>
    simp only
    split
    next fits => exact ⟨nofun, fun long => absurd (short.1 fits) (Nat.not_lt.2 long)⟩
    next long => exact ⟨fun _ => Nat.not_lt.1 (mt short.2 long), fun _ => rfl⟩

theorem exists_intText?_iff {value : Int} :
    (∃ text, intText? value = some text) ↔ value.natAbs < 10 ^ digitLimit := by
  rw [← Nat.not_le, ← intText?_eq_none_iff]
  exact Option.ne_none_iff_exists'.symm

theorem text?_eq_none_iff {number : Number} :
    number.text? = none ↔ ∃ value, number = .int value ∧ 10 ^ digitLimit ≤ value.natAbs := by
  cases number with
  | int value =>
    rw [text?, intText?_eq_none_iff]
    exact ⟨fun long => ⟨value, rfl, long⟩, fun ⟨_, same, long⟩ => int.inj same ▸ long⟩
  | float value => exact ⟨nofun, fun ⟨_, same, _⟩ => nomatch same⟩

/-! ### Integers as numerals -/

/-- The digits that are computed for a number are its digits in the decimal system. -/
theorem exists_digits_of_toDigits (magnitude : Nat) :
    ∃ digits : List (Fin 10), digits ≠ [] ∧
      digits.map Syntax.digitCharacter = Nat.toDigits 10 magnitude ∧
      Nat.ofDigits 10 (digits.map Fin.val).reverse = magnitude := by
  have allDigits : (Nat.toDigits 10 magnitude).all Text.isDigit = true :=
    List.all_eq_true.2 fun _ member => Nat.isDigit_of_mem_toDigits (by decide) (by decide) member
  obtain ⟨digits, spelled⟩ := Syntax.exists_digits allDigits
  refine ⟨digits, ?_, spelled, ?_⟩
  · rintro rfl
    exact Nat.toDigits_ne_nil spelled.symm
  · rw [← Syntax.ofDigitChars_digits, spelled]
    exact Nat.ofDigitChars_toDigits (by decide) (by decide)

theorem eq_of_intText? {value : Int} {text : String} (written : intText? value = some text) :
    (Nat.toDigits 10 value.natAbs).length ≤ digitLimit ∧
      text = String.ofList (if value < 0 then '-' :: Nat.toDigits 10 value.natAbs
        else Nat.toDigits 10 value.natAbs) := by
  unfold intText? at written
  split at written
  next => cases written
  next =>
    simp only at written
    split at written
    next short =>
      cases written
      exact ⟨short, rfl⟩
    next => cases written

/-- The digits that are computed for a number begin with a zero only if it is the only one. A zero in
front would be one digit more than the value needs. -/
theorem eq_nil_of_toDigits {magnitude : Nat} {rest : List (Fin 10)}
    (spelled : (0 :: rest).map Syntax.digitCharacter = Nat.toDigits 10 magnitude)
    (means : Nat.ofDigits 10 ((0 :: rest).map Fin.val).reverse = magnitude) : rest = [] := by
  by_contra nonempty
  have small : magnitude < 10 ^ rest.length := by
    have bound := Syntax.ofDigits_lt rest
    simpa [Nat.ofDigits_append, ← means] using bound
  have length := congrArg List.length spelled
  rw [List.length_map, List.length_cons] at length
  have short := (Nat.length_toDigits_le_iff (by decide) (List.length_pos_iff.2 nonempty)).2 small
  omega

/-- The text of an integer is the plain numeral that means it. -/
theorem exists_plain_of_intText? {value : Int} {text : String}
    (written : intText? value = some text) :
    ∃ numeral : Syntax.Numeral, numeral.IsPlain ∧ numeral.word = text ∧ numeral.value = value := by
  obtain ⟨short, rfl⟩ := eq_of_intText? written
  obtain ⟨digits, nonempty, spelled, means⟩ := exists_digits_of_toDigits value.natAbs
  have leading (rest : List (Fin 10)) (zero : digits = 0 :: rest) : rest = [] := by
    subst zero
    exact eq_nil_of_toDigits spelled means
  rw [← spelled, List.length_map] at short
  by_cases negative : value < 0
  · have same : Syntax.Numeral.value ⟨.minus, digits, nonempty, short⟩ = value := by
      rw [Syntax.Numeral.value, means]
      show -(value.natAbs : Int) = value
      omega
    refine ⟨⟨.minus, digits, nonempty, short⟩, ⟨?_, leading⟩, ?_, same⟩
    · rw [same, if_pos negative]
    · rw [if_pos negative, ← spelled]
      rfl
  · have same : Syntax.Numeral.value ⟨.absent, digits, nonempty, short⟩ = value := by
      rw [Syntax.Numeral.value, means]
      show (value.natAbs : Int) = value
      omega
    refine ⟨⟨.absent, digits, nonempty, short⟩, ⟨?_, leading⟩, ?_, same⟩
    · rw [same, if_neg negative]
    · rw [if_neg negative, ← spelled]
      rfl

/-- The text of an integer is a numeral that means it. -/
theorem exists_numeral_of_intText? {value : Int} {text : String}
    (written : intText? value = some text) :
    ∃ numeral : Syntax.Numeral, numeral.word = text ∧ numeral.value = value := by
  obtain ⟨numeral, -, spelled, means⟩ := exists_plain_of_intText? written
  exact ⟨numeral, spelled, means⟩

/-- The text of an integer is the shortest of the numerals that mean it. -/
theorem length_le_of_intText? {numeral : Syntax.Numeral} {text : String}
    (written : intText? numeral.value = some text) : text.length ≤ numeral.word.length := by
  obtain ⟨-, rfl⟩ := eq_of_intText? written
  have digits : (Nat.toDigits 10 numeral.value.natAbs).length ≤ numeral.digits.length :=
    (Nat.length_toDigits_le_iff (by decide) (List.length_pos_iff.2 numeral.nonempty)).2
      numeral.natAbs_value_lt_pow_length
  have whole : numeral.word.length = numeral.sign.characters.length + numeral.digits.length := by
    rw [Syntax.Numeral.word, String.length_ofList, List.length_append, List.length_map]
  rw [whole, String.length_ofList]
  split
  next negative =>
    have signed : numeral.sign = .minus := by
      cases same : numeral.sign with
      | minus => rfl
      | absent | plus =>
        rw [Syntax.Numeral.value, same] at negative
        exact absurd negative (Int.not_lt.2 (Int.natCast_nonneg _))
    rw [signed, List.length_cons, Nat.add_comm]
    exact Nat.add_le_add_left digits 1
  next => exact Nat.le_add_left_of_le digits

/-! ### Texts that are not empty -/

theorem positional_ne_nil (digits : List Char) (exponent : Int) : positional digits exponent ≠ [] := by
  unfold positional
  split
  next => exact List.cons_ne_nil _ _
  next =>
    simp only
    split <;> simp

theorem DecimalStyle.write_ne_nil (style : DecimalStyle) (decimal : Decimal) :
    style.write decimal ≠ [] := by
  unfold write
  simp only
  split
  next => exact positional_ne_nil _ _
  next => simp

theorem isEmpty_floatText (value : Float) : (floatText value).isEmpty = false := by
  unfold floatText
  simp only
  split
  next => rfl
  next =>
    split
    next => simp
    next =>
      split
      next => simp
      next => simp [DecimalStyle.write_ne_nil]

/-- What is written of a number is seen. -/
theorem isEmpty_of_text? {number : Number} {text : String} (written : number.text? = some text) :
    text.isEmpty = false := by
  cases number with
  | int value =>
    obtain ⟨-, rfl⟩ := eq_of_intText? written
    split <;> simp [Nat.toDigits_ne_nil]
  | float value =>
    cases written
    exact isEmpty_floatText value

end Forth.Number
