/-
This file says which stacks can be shown. Not every value is shown of a long
stack, but all of those next to the top and the one at the bottom are. So the
display of a stack breaks down exactly if one of these has no text, and that is
an integer with more digits than are allowed.

The lines can also be told by going through a copy of the values from the bottom to
the top with a position that counts down. `countedLines_eq_stackLines` says that this
comes to the same.
-/

import Forth.Conversation
import Forth.Proofs.Decimal
import Mathlib.Data.List.Induction

namespace Forth

namespace Conversation

/-! ### The lines of a stack -/

/-- Whether the value at a distance from the top of a stack is shown. -/
def IsShown (values : List Number) (index : Nat) : Prop :=
  index < shownValues ∨ index + 1 = values.length

theorem mem_positionLines_iff {values : List Number} {line : StackLine} :
    line ∈ positionLines values ↔
      ∃ index value, values[index]? = some value ∧ line = .value (1 + index) value := by
  unfold positionLines
  simp only [List.mem_map, List.mem_reverse, Prod.exists]
  constructor
  · rintro ⟨value, position, member, rfl⟩
    obtain ⟨atLeast, found⟩ := List.mk_mem_zipIdx_iff_le_and_getElem?_sub.1 member
    exact ⟨position - 1, value, found, by rw [Nat.add_sub_cancel' atLeast]⟩
  · rintro ⟨index, value, found, rfl⟩
    exact ⟨value, 1 + index, List.mk_add_mem_zipIdx_iff_getElem?.2 found, rfl⟩

/-- The first line is about the value at the bottom. -/
theorem positionLines_concat (values : List Number) (bottom : Number) :
    positionLines (values ++ [bottom]) =
      .value (1 + values.length) bottom :: positionLines values := by
  unfold positionLines
  rw [List.zipIdx_append, List.reverse_append]
  rfl

theorem take_one_positionLines (values : List Number) (bottom : Number) :
    (positionLines (values ++ [bottom])).take 1 = [.value (1 + values.length) bottom] := by
  rw [positionLines_concat]
  rfl

/-! ### Counting down -/

/-- Lines about values one after the other, with positions that count down from the given one. -/
def countingLines (position : Nat) : List Number → List StackLine
  | [] => []
  | value :: rest => .value position value :: countingLines (position - 1) rest

/-- Counting down from the number of values, with the bottom first, gives every value its position. -/
theorem countingLines_reverse (values : List Number) :
    countingLines values.length values.reverse = positionLines values := by
  induction values using List.reverseRecOn with
  | nil => rfl
  | append_singleton above bottom inductionHypothesis =>
    rw [List.length_append, List.length_singleton, List.reverse_concat, countingLines,
      Nat.add_sub_cancel, inductionHypothesis, positionLines_concat, Nat.add_comm]

/-- The lines that show a stack, told by a copy of its values with the bottom first. If the copy is long,
its first value is told with the position that it has there, and the count begins anew for the last
ones. -/
def countedLines (values : List Number) : List StackLine :=
  let copy := values.reverse
  let last := copy.drop (copy.length - shownValues)
  .heading ::
    if shownValues < copy.length then
      (copy.take 1).map (.value copy.length) ++ .ellipsis :: countingLines shownValues last
    else countingLines copy.length last

/-- Counting down leads to the lines that show the stack, however many values there are. -/
theorem countedLines_eq_stackLines (values : List Number) :
    countedLines values = stackLines values := by
  have last : values.reverse.drop (values.length - shownValues) =
      (values.take shownValues).reverse := List.reverse_take.symm
  unfold countedLines stackLines
  simp only [List.length_reverse, last]
  rcases Nat.lt_or_ge shownValues values.length with long | short
  · obtain ⟨above, bottom, rfl⟩ :=
      (List.eq_nil_or_concat' values).resolve_left fun none => by simp [none] at long
    rw [if_neg (Nat.not_le.2 long), if_pos long, take_one_positionLines, ← countingLines_reverse,
      List.length_take_of_le (Nat.le_of_lt long), List.length_append, List.length_singleton,
      Nat.add_comm, List.reverse_concat]
    rfl
  · rw [if_pos short, if_neg (Nat.not_lt.2 short), List.take_of_length_le short,
      countingLines_reverse]

/-! ### Values that are shown -/

/-- The lines about values are those about the values that are shown. -/
theorem value_mem_stackLines_iff {values : List Number} {position : Nat} {value : Number} :
    .value position value ∈ stackLines values ↔
      ∃ index, position = 1 + index ∧ values[index]? = some value ∧ IsShown values index := by
  have top : .value position value ∈ positionLines (values.take shownValues) ↔
      ∃ index, position = 1 + index ∧ values[index]? = some value ∧ index < shownValues := by
    rw [mem_positionLines_iff]
    constructor
    · rintro ⟨index, _, found, same⟩
      cases same
      rw [List.getElem?_take] at found
      split at found
      next within => exact ⟨index, rfl, found, within⟩
      next => cases found
    · rintro ⟨index, rfl, found, within⟩
      exact ⟨index, value, by rw [List.getElem?_take, if_pos within, found], rfl⟩
  unfold stackLines
  simp only
  split
  next short =>
    rw [List.mem_cons, top]
    constructor
    · rintro (heading | ⟨index, same, found, within⟩)
      · cases heading
      · exact ⟨index, same, found, .inl within⟩
    · rintro ⟨index, same, found, -⟩
      obtain ⟨inRange, -⟩ := List.getElem?_eq_some_iff.1 found
      exact .inr ⟨index, same, found, Nat.lt_of_lt_of_le inRange short⟩
  next long =>
    obtain rfl | ⟨above, bottom, rfl⟩ := List.eq_nil_or_concat' values
    · exact absurd (Nat.zero_le _) long
    · rw [take_one_positionLines, List.mem_append, List.mem_cons, List.mem_singleton,
        List.mem_cons, top]
      constructor
      · rintro ((heading | last) | (ellipsis | ⟨index, same, found, within⟩))
        · cases heading
        · cases last
          refine ⟨above.length, rfl, List.getElem?_concat_length, .inr ?_⟩
          rw [List.length_append, List.length_singleton]
        · cases ellipsis
        · exact ⟨index, same, found, .inl within⟩
      · rintro ⟨index, same, found, within | last⟩
        · exact .inr (.inr ⟨index, same, found, within⟩)
        · rw [List.length_append, List.length_singleton, Nat.add_right_cancel_iff] at last
          subst last
          rw [List.getElem?_concat_length] at found
          cases found
          exact .inl (.inr (by rw [same]))

/-! ### Showing a stack -/

/-- Whether a value that is shown has too many digits. -/
def Unshowable (values : List Number) : Prop :=
  ∃ index value, values[index]? = some (.int value) ∧ IsShown values index ∧
    10 ^ Number.digitLimit ≤ value.natAbs

theorem unshowable_iff {values : List Number} :
    Unshowable values ↔ ∃ line ∈ stackLines values, line.text? = none := by
  constructor
  · rintro ⟨index, value, found, shown, long⟩
    refine ⟨_, value_mem_stackLines_iff.2 ⟨index, rfl, found, shown⟩, ?_⟩
    rw [StackLine.text?, Number.text?_eq_none_iff.2 ⟨value, rfl, long⟩]
    rfl
  · rintro ⟨line, member, unwritable⟩
    cases line with
    | heading | ellipsis => cases unwritable
    | value position number =>
      obtain ⟨index, -, found, shown⟩ := value_mem_stackLines_iff.1 member
      obtain ⟨value, rfl, long⟩ := Number.text?_eq_none_iff.1 (Option.map_eq_none_iff.1 unwritable)
      exact ⟨index, value, found, shown, long⟩

/-- Lines are shown up to one that has no text. -/
theorem showLines_next (lines : List StackLine) :
    ((∃ line ∈ lines, line.text? = none) → (showLines lines).next = .broken .unprintable) ∧
    ((¬ ∃ line ∈ lines, line.text? = none) → (showLines lines).next = .waiting .ready) := by
  induction lines with
  | nil => exact ⟨nofun, fun _ => rfl⟩
  | cons line rest inductionHypothesis =>
    rw [List.exists_mem_cons_iff, showLines]
    cases written : line.text? with
    | none => exact ⟨fun _ => rfl, fun shown => absurd (.inl rfl) shown⟩
    | some text =>
      obtain ⟨breaks, ends⟩ := inductionHypothesis
      refine ⟨?_, fun shown => ends fun later => shown (.inr later)⟩
      rintro (unwritable | later)
      · cases unwritable
      · exact breaks later

end Conversation

end Forth
