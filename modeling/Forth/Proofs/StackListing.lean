/-
This file says what the display of a stack tells about the stack. Below the heading,
every line tells a position, counted from the top, and the value there. A stack of up to
ten values is listed from the bottom to the top. Of a longer one, the bottom comes first,
and the ten values next to the top follow after an ellipsis.

What a line tells can be read off its text: the position and the value's text are
determined by it, and neither the heading nor the ellipsis can be taken for such a line.
-/

import Forth.Proofs.StackDisplay
import Mathlib.Data.List.Forall2

namespace Forth.Conversation

open Text (Colour)

/-! ### Texts of lines -/

/-- The line about a position that holds a value with the given text. -/
def positionText (position : Nat) (text : String) : String :=
  columns (Colour.grey.paint s!"  {position} :") (Colour.cyan.paint text)

/-- The line above all values. -/
def headingText : String :=
  Colour.grey.paint "STACK"

/-- The line in place of the values that are left out. -/
def ellipsisText : String :=
  Colour.grey.paint (columns "  ..." "...")

/-- A line about a position has its digits between two blanks, and in the end the value's text. -/
theorem toList_positionText (position : Nat) (text : String) :
    (positionText position text).toList =
      "\x1b[90m  ".toList ++ (Nat.toDigits 10 position ++ ' ' ::
        (":\x1b[39m\r\t\t\x1b[36m".toList ++ (text.toList ++ "\x1b[39m".toList))) := by
  have spelled : positionText position text =
      "\x1b[90m" ++ ("  " ++ Nat.repr position ++ " :") ++ "\x1b[39m" ++ "\r\t\t" ++
        ("\x1b[36m" ++ text ++ "\x1b[39m") := rfl
  simp [spelled]

theorem isDigit_of_mem_toDigits {position : Nat} {character : Char}
    (member : character ∈ Nat.toDigits 10 position) : character.isDigit = true :=
  Nat.isDigit_of_mem_toDigits (by decide) (by decide) member

/-- The text of a line determines the position and the text of the value. -/
theorem positionText_injective {position other : Nat} {text otherText : String}
    (same : positionText position text = positionText other otherText) :
    position = other ∧ text = otherText := by
  have characters := congrArg String.toList same
  rw [toList_positionText, toList_positionText] at characters
  have fromDigits := List.append_cancel_left characters
  have digits := congrArg (List.takeWhile Char.isDigit) fromDigits
  rw [List.takeWhile_append_of_pos fun _ => isDigit_of_mem_toDigits,
    List.takeWhile_append_of_pos fun _ => isDigit_of_mem_toDigits,
    List.takeWhile_cons_of_neg (by decide), List.takeWhile_cons_of_neg (by decide),
    List.append_nil, List.append_nil] at digits
  have positions : position = other := by
    calc position = Nat.ofDigitChars 10 (Nat.toDigits 10 position) 0 :=
          Nat.ofDigitChars_ten_toDigits.symm
      _ = other := by rw [digits, Nat.ofDigitChars_ten_toDigits]
  rw [digits] at fromDigits
  have fromText := List.append_cancel_left (List.cons.inj (List.append_cancel_left fromDigits)).2
  exact ⟨positions, String.toList_inj.1 (List.append_cancel_right fromText)⟩

/-- A line about a position has a digit where the heading has a letter and the ellipsis a point. -/
theorem positionText_ne (position : Nat) (text : String) :
    positionText position text ≠ headingText ∧ positionText position text ≠ ellipsisText := by
  obtain ⟨digit, rest, spelled⟩ := List.exists_cons_of_ne_nil
    (Nat.toDigits_ne_nil (n := position) (b := 10))
  have isDigit : digit.isDigit = true :=
    isDigit_of_mem_toDigits (spelled ▸ List.mem_cons_self)
  have heading : headingText.toList = "\x1b[90mSTACK\x1b[39m".toList := rfl
  have ellipsis : ellipsisText.toList = "\x1b[90m  ...\r\t\t...\x1b[39m".toList := rfl
  have characters := toList_positionText position text
  rw [spelled] at characters
  constructor
  · intro same
    rw [same, heading] at characters
    simp at characters
  · intro same
    rw [same, ellipsis] at characters
    obtain ⟨point, -⟩ : '.' = digit ∧ _ := by simpa using characters
    rw [← point] at isDigit
    exact absurd isDigit (by decide)

/-! ### Positions -/

/-- The positions up to a number, from this number down to one. -/
def countdown (count : Nat) : List Nat :=
  (List.range' 1 count).reverse

/-- Whether the value at a position has the given text, where the values are given top first and the top
has the first position. -/
def HoldsAt (values : List Number) (position : Nat) (text : String) : Prop :=
  1 ≤ position ∧ ∃ value, values[position - 1]? = some value ∧ value.text? = some text

/-- Whether a line tells what is at a position. -/
def Tells (values : List Number) (position : Nat) (line : String) : Prop :=
  ∃ text, HoldsAt values position text ∧ line = positionText position text

/-- Whether a line of the display is about the value at a position. -/
def IsAbout (values : List Number) (position : Nat) (line : StackLine) : Prop :=
  1 ≤ position ∧ ∃ value, values[position - 1]? = some value ∧ line = .value position value

/-- The lines about values go through all positions, each with its value. -/
theorem forall₂_positionLines (values : List Number) :
    List.Forall₂ (IsAbout values) (countdown values.length) (positionLines values) := by
  unfold countdown positionLines
  rw [List.forall₂_map_right_iff, List.forall₂_reverse_iff, List.forall₂_iff_get]
  refine ⟨by rw [List.length_range', List.length_zipIdx], fun index within withinToo => ?_⟩
  simp only [List.get_eq_getElem, List.getElem_range', List.getElem_zipIdx]
  rw [List.length_zipIdx] at withinToo
  refine ⟨by omega, values[index], ?_, by rw [Nat.one_mul]⟩
  rw [Nat.one_mul, Nat.add_sub_cancel_left, List.getElem?_eq_getElem withinToo]

/-- Lines that can be written are shown one after the other. -/
theorem showLines_of_text? {lines : List StackLine} {texts : List String}
    (written : List.Forall₂ (fun line text => line.text? = some text) lines texts) :
    showLines lines = ⟨texts.map .printed, .waiting .ready⟩ := by
  induction written with
  | nil => rfl
  | cons written rest inductionHypothesis =>
    rw [showLines, written]
    simp only [inductionHypothesis, List.map_cons]

section Listing

variable {values : List Number}

/-- Lines about values that can be written tell what is at their positions. -/
theorem exists_tells (writable : ∀ value ∈ values, ∃ text, value.text? = some text)
    {positions : List Nat} {lines : List StackLine}
    (about : List.Forall₂ (IsAbout values) positions lines) :
    ∃ texts, List.Forall₂ (fun line text => line.text? = some text) lines texts ∧
      List.Forall₂ (Tells values) positions texts := by
  induction about with
  | nil => exact ⟨[], .nil, .nil⟩
  | @cons position line positions lines first rest inductionHypothesis =>
    obtain ⟨positive, value, found, rfl⟩ := first
    obtain ⟨text, written⟩ := writable value (List.mem_of_getElem? found)
    obtain ⟨texts, allWritten, tell⟩ := inductionHypothesis
    refine ⟨positionText position text :: texts, .cons ?_ allWritten,
      .cons ⟨text, ⟨positive, value, found, written⟩, rfl⟩ tell⟩
    rw [StackLine.text?, written]
    rfl

/-- A line that tells something of a position tells the truth. -/
theorem Tells.holdsAt {position other : Nat} {text : String}
    (tells : Tells values other (positionText position text)) : HoldsAt values position text := by
  obtain ⟨otherText, holds, same⟩ := tells
  obtain ⟨rfl, rfl⟩ := positionText_injective same
  exact holds

theorem exists_tells_of_mem {positions : List Nat} {lines : List String}
    (tell : List.Forall₂ (Tells values) positions lines) {line : String} (member : line ∈ lines) :
    ∃ position, Tells values position line := by
  induction tell with
  | nil => cases member
  | @cons position _ _ _ first rest inductionHypothesis =>
    rcases List.mem_cons.1 member with rfl | later
    · exact ⟨position, first⟩
    · exact inductionHypothesis later

/-- Among the heading, the ellipsis and lines that tell something, whatever is told of a position is
true. -/
theorem holdsAt_of_mem {lines : List String}
    (each : ∀ line ∈ lines, line = headingText ∨ line = ellipsisText ∨
      ∃ position, Tells values position line) {position : Nat} {text : String}
    (member : positionText position text ∈ lines) : HoldsAt values position text := by
  rcases each _ member with heading | ellipsis | ⟨other, tells⟩
  · exact absurd heading (positionText_ne position text).1
  · exact absurd ellipsis (positionText_ne position text).2
  · exact tells.holdsAt

/-- The lines about the topmost values are about the same positions of the whole stack. -/
theorem forall₂_positionLines_take {count : Nat} (enough : count ≤ values.length) :
    List.Forall₂ (IsAbout values) (countdown count) (positionLines (values.take count)) := by
  have top := forall₂_positionLines (values.take count)
  rw [List.length_take_of_le enough] at top
  refine top.imp fun position line ⟨positive, value, found, same⟩ => ⟨positive, value, ?_, same⟩
  rw [List.getElem?_take] at found
  split at found
  next => exact found
  next => cases found

/-- The first line of a stack is about its last position. -/
theorem forall₂_take_positionLines (nonempty : values ≠ []) :
    List.Forall₂ (IsAbout values) [values.length] ((positionLines values).take 1) := by
  obtain ⟨above, bottom, rfl⟩ := (List.eq_nil_or_concat' values).resolve_left nonempty
  rw [take_one_positionLines]
  refine .cons ⟨?_, bottom, ?_, ?_⟩ .nil
  · rw [List.length_append, List.length_singleton]
    omega
  · rw [List.length_append, List.length_singleton, Nat.add_sub_cancel]
    exact List.getElem?_concat_length
  · rw [List.length_append, List.length_singleton, Nat.add_comm]

theorem stackLines_of_le (short : values.length ≤ 10) :
    stackLines values = .heading :: positionLines values := by
  have all : values.take shownValues = values := List.take_of_length_le short
  unfold stackLines
  rw [all]
  exact if_pos short

theorem stackLines_of_lt (long : 10 < values.length) :
    stackLines values =
      .heading :: ((positionLines values).take 1 ++ .ellipsis :: positionLines (values.take 10)) :=
  if_neg (Nat.not_le.2 long)

/-- A short stack is written as the heading and a line for each position. -/
theorem exists_texts_of_le (writable : ∀ value ∈ values, ∃ text, value.text? = some text)
    (short : values.length ≤ 10) :
    ∃ all, List.Forall₂ (fun line text => line.text? = some text) (stackLines values)
        (headingText :: all) ∧
      List.Forall₂ (Tells values) (countdown values.length) all := by
  obtain ⟨all, allWritten, tell⟩ := exists_tells writable (forall₂_positionLines values)
  rw [stackLines_of_le short]
  exact ⟨all, .cons rfl allWritten, tell⟩

/-- A long stack is written as the heading, the bottom, the ellipsis and ten lines for the top. -/
theorem exists_texts_of_lt (writable : ∀ value ∈ values, ∃ text, value.text? = some text)
    (long : 10 < values.length) :
    ∃ bottom top, List.Forall₂ (fun line text => line.text? = some text) (stackLines values)
        (headingText :: bottom :: ellipsisText :: top) ∧
      Tells values values.length bottom ∧ List.Forall₂ (Tells values) (countdown 10) top := by
  have nonempty : values ≠ [] := fun none => by simp [none] at long
  obtain ⟨first, firstWritten, tellFirst⟩ :=
    exists_tells writable (forall₂_take_positionLines nonempty)
  obtain ⟨top, topWritten, tellTop⟩ :=
    exists_tells writable (forall₂_positionLines_take (Nat.le_of_lt long))
  obtain ⟨bottom, _, tellsBottom, tellNothing, rfl⟩ := List.forall₂_cons_left_iff.1 tellFirst
  cases tellNothing
  rw [stackLines_of_lt long]
  exact ⟨bottom, top, .cons rfl (List.rel_append firstWritten (.cons rfl topWritten)), tellsBottom,
    tellTop⟩

end Listing

/-- If no integer on the stack of a report has too many digits, the stack is shown after what is
presented without it. Whatever line tells of a position is true of the value there. With up to ten values
the lines tell of all positions, from the last one down to the first. With more, the first line tells of
the last position, and after the ellipsis follow the lines that tell of the tenth position down to the
first. -/
theorem present_stack (limit : Int) (report : Report)
    (writable : ∀ value, .int value ∈ report.stack → value.natAbs < 10 ^ Number.digitLimit) :
    ∃ lines, present ⟨limit, true⟩ report =
        ⟨(present ⟨limit, false⟩ report).events ++ lines.map .printed, .waiting .ready⟩ ∧
      (∀ position text, positionText position text ∈ lines →
        HoldsAt report.stack position text) ∧
      (report.stack.length ≤ 10 → ∃ all, lines = headingText :: all ∧
        List.Forall₂ (Tells report.stack) (countdown report.stack.length) all) ∧
      (10 < report.stack.length → ∃ bottom top,
        lines = headingText :: bottom :: ellipsisText :: top ∧
        Tells report.stack report.stack.length bottom ∧
        List.Forall₂ (Tells report.stack) (countdown 10) top) := by
  have presented : present ⟨limit, true⟩ report =
      ⟨(present ⟨limit, false⟩ report).events ++ (showLines (stackLines report.stack)).events,
        (showLines (stackLines report.stack)).next⟩ := by
    simp [present]
  rw [presented]
  generalize report.stack = values at *
  have allWritable (value : Number) (member : value ∈ values) : ∃ text, value.text? = some text := by
    refine Option.ne_none_iff_exists'.1 fun unwritable => ?_
    obtain ⟨integer, rfl, long⟩ := Number.text?_eq_none_iff.1 unwritable
    exact absurd (writable integer member) (Nat.not_lt.2 long)
  rcases Nat.lt_or_ge 10 values.length with long | short
  · obtain ⟨bottom, top, written, tellsBottom, tellTop⟩ := exists_texts_of_lt allWritable long
    rw [showLines_of_text? written]
    refine ⟨_, rfl, fun position text => holdsAt_of_mem ?_,
      fun short => absurd short (Nat.not_le.2 long),
      fun _ => ⟨bottom, top, rfl, tellsBottom, tellTop⟩⟩
    exact List.forall_mem_cons.2 ⟨.inl rfl, List.forall_mem_cons.2
      ⟨.inr (.inr ⟨_, tellsBottom⟩), List.forall_mem_cons.2
        ⟨.inr (.inl rfl), fun line member => .inr (.inr (exists_tells_of_mem tellTop member))⟩⟩⟩
  · obtain ⟨all, written, tell⟩ := exists_texts_of_le allWritable short
    rw [showLines_of_text? written]
    refine ⟨_, rfl, fun position text => holdsAt_of_mem ?_, fun _ => ⟨all, rfl, tell⟩,
      fun long => absurd short (Nat.not_le.2 long)⟩
    exact List.forall_mem_cons.2
      ⟨.inl rfl, fun line member => .inr (.inr (exists_tells_of_mem tell member))⟩

/-- Of eleven values, the one at the bottom is shown first and the second one from the bottom comes
after the ellipsis. -/
theorem present_stack_eleven :
    let stack : List Number := [.int 11, .int 10, .int 9, .int 8, .int 7, .int 6, .int 5, .int 4,
      .int 3, .int 2, .int 1]
    let report : Report := ⟨"1 2 3 4 5 6 7 8 9 10 11", [], "", [], stack, [], none⟩
    (∀ value, .int value ∈ report.stack → value.natAbs < 10 ^ Number.digitLimit) ∧
    ∃ top, present ⟨0, true⟩ report =
      ⟨(headingText :: positionText 11 "1" :: ellipsisText :: positionText 10 "2" :: top).map
        .printed, .waiting .ready⟩ := by
  intro stack report
  have writable (value : Int) (member : .int value ∈ report.stack) :
      value.natAbs < 10 ^ Number.digitLimit := by
    have small : value.natAbs < 10 ^ 2 := by
      simp only [report, stack, List.mem_cons, Number.int.injEq, List.not_mem_nil, or_false] at member
      omega
    exact small.trans_le (Nat.pow_le_pow_right (by decide) (by decide))
  refine ⟨writable, ?_⟩
  obtain ⟨lines, presented, -, -, long⟩ := present_stack 0 report writable
  obtain ⟨bottom, top, rfl, ⟨text, ⟨-, value, found, written⟩, rfl⟩, tellTop⟩ := long (by decide)
  cases found
  cases written
  obtain ⟨tenth, others, ⟨text, ⟨-, value, found, written⟩, rfl⟩, -, rfl⟩ :=
    List.forall₂_cons_left_iff.1 tellTop
  cases found
  cases written
  exact ⟨others, presented⟩

end Forth.Conversation
