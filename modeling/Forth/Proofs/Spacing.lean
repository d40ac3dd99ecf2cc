/-
This file proves that the layout of a text has no meaning. Every text consists of
words with gaps around them, in exactly one way, and its words are these. So texts
that differ only in their gaps have the same words, and the parser reads them as
the same tokens or refuses them with the same failure.

A text is taken apart from its last character on. A blank one widens the gap in
front of what follows, and any other one makes the first word longer, or is a word
of its own if a gap comes next.
-/

import Forth.Program
import Forth.Proofs.Layout

namespace Forth.Text

/-! ### Texts that are laid out -/

/-- Whether a text consists of the given words with gaps around them. -/
def IsLaidOut (list : List String) (text : String) : Prop :=
  (∀ word ∈ list, IsWord word) ∧ ∃ gap, IsSpacing gap list.length ∧ layOut gap list = text

/-- Whether two texts consist of the same words and differ only in the gaps around them. -/
def SameButForGaps (left right : String) : Prop :=
  ∃ list, IsLaidOut list left ∧ IsLaidOut list right

/-- Gaps of which the first is replaced. -/
def withFirst (first : String) (gap : Nat → String) : Nat → String
  | 0 => first
  | number + 1 => gap (number + 1)

/-- Gaps after one that is empty. -/
def afterNone (gap : Nat → String) : Nat → String
  | 0 => ""
  | number + 1 => gap number

theorem IsSpacing.withFirst {gap : Nat → String} {count : Nat} (spacing : IsSpacing gap count)
    {first : String} (blank : first.toList.all isBlank = true) :
    IsSpacing (withFirst first gap) count where
  blank
    | 0 => blank
    | number + 1 => spacing.blank (number + 1)
  between
    | number + 1, positive, within => spacing.between (number + 1) positive within

/-- A word may come in front if there is a gap behind it or nothing else. -/
theorem IsSpacing.afterNone {gap : Nat → String} {count : Nat} (spacing : IsSpacing gap count)
    (apart : 0 < count → (gap 0).toList ≠ []) : IsSpacing (afterNone gap) (count + 1) where
  blank
    | 0 => rfl
    | number + 1 => spacing.blank number
  between
    | 1, _, within => apart (Nat.lt_of_succ_lt_succ within)
    | number + 2, _, within =>
      spacing.between (number + 1) (Nat.succ_pos number) (Nat.lt_of_succ_lt_succ within)

theorem layOut_withFirst (front : String) (gap : Nat → String) (list : List String) :
    layOut (withFirst (front ++ gap 0) gap) list = front ++ layOut gap list := by
  cases list with
  | nil => rfl
  | cons word rest =>
    show front ++ gap 0 ++ word ++ layOut (fun number => gap (number + 1)) rest =
      front ++ (gap 0 ++ word ++ layOut (fun number => gap (number + 1)) rest)
    rw [String.append_assoc, String.append_assoc, String.append_assoc]

/-! ### One character more -/

section OneMore

variable {list : List String} {text : String} {character : Char}

/-- A blank character widens the first gap. -/
theorem IsLaidOut.blank_append (laidOut : IsLaidOut list text) (blank : isBlank character = true) :
    IsLaidOut list (String.singleton character ++ text) := by
  obtain ⟨areWords, gap, spacing, rfl⟩ := laidOut
  refine ⟨areWords, withFirst (String.singleton character ++ gap 0) gap,
    spacing.withFirst ?_, layOut_withFirst _ gap list⟩
  rw [String.toList_append, String.toList_singleton, List.singleton_append, List.all_cons, blank,
    spacing.blank 0]
  rfl

theorem isWord_singleton (solid : isBlank character = false) :
    IsWord (String.singleton character) where
  nonempty := by
    rw [String.toList_singleton]
    exact List.cons_ne_nil _ _
  solid := by
    rw [String.toList_singleton]
    exact List.forall_mem_singleton.2 solid

theorem IsWord.singleton_append {word : String} (isWord : IsWord word)
    (solid : isBlank character = false) : IsWord (String.singleton character ++ word) where
  nonempty := by
    rw [String.toList_append, String.toList_singleton]
    exact List.cons_ne_nil _ _
  solid := by
    rw [String.toList_append, String.toList_singleton]
    exact List.forall_mem_cons.2 ⟨solid, isWord.solid⟩

/-- Any other character belongs to the first word, or is a word of its own. -/
theorem IsLaidOut.solid_append (laidOut : IsLaidOut list text)
    (solid : isBlank character = false) :
    ∃ longer, IsLaidOut longer (String.singleton character ++ text) := by
  obtain ⟨areWords, gap, spacing, rfl⟩ := laidOut
  -- The character is a word of its own if it is followed by a gap or by nothing.
  have alone (apart : 0 < list.length → (gap 0).toList ≠ []) :
      IsLaidOut (String.singleton character :: list)
        (String.singleton character ++ layOut gap list) := by
    refine ⟨List.forall_mem_cons.2 ⟨isWord_singleton solid, areWords⟩, afterNone gap,
      spacing.afterNone apart, ?_⟩
    show "" ++ String.singleton character ++ layOut gap list = _
    rw [String.empty_append]
  cases list with
  | nil => exact ⟨_, alone fun none => absurd none (Nat.lt_irrefl 0)⟩
  | cons word rest =>
    by_cases joined : gap 0 = ""
    · have ⟨isWord, restWords⟩ := List.forall_mem_cons.1 areWords
      refine ⟨(String.singleton character ++ word) :: rest,
        List.forall_mem_cons.2 ⟨isWord.singleton_append solid, restWords⟩, gap, spacing, ?_⟩
      rw [layOut, layOut, joined, String.empty_append, String.empty_append, String.append_assoc]
    · exact ⟨_, alone fun _ empty => joined (String.toList_eq_nil_iff.1 empty)⟩

end OneMore

/-! ### Every text -/

/-- Every text consists of words with gaps around them. -/
theorem exists_isLaidOut (text : String) : ∃ list, IsLaidOut list text := by
  rw [← String.ofList_toList (s := text)]
  induction text.toList with
  | nil =>
    have spacing : IsSpacing (fun _ => "") 0 :=
      ⟨fun _ => rfl, fun number _ within => absurd within (Nat.not_lt_zero number)⟩
    exact ⟨[], List.forall_mem_nil _, fun _ => "", spacing, rfl⟩
  | cons character rest inductionHypothesis =>
    obtain ⟨list, laidOut⟩ := inductionHypothesis
    rw [String.ofList_cons]
    cases kind : isBlank character with
    | true => exact ⟨list, laidOut.blank_append kind⟩
    | false => exact laidOut.solid_append kind

theorem IsLaidOut.words_eq {list : List String} {text : String} (laidOut : IsLaidOut list text) :
    words text = list := by
  obtain ⟨areWords, gap, spacing, rfl⟩ := laidOut
  exact words_layOut spacing areWords

/-- A text consists of its words, and of no others. -/
theorem words_eq_iff_isLaidOut {text : String} {list : List String} :
    words text = list ↔ IsLaidOut list text := by
  refine ⟨?_, IsLaidOut.words_eq⟩
  rintro rfl
  obtain ⟨list, laidOut⟩ := exists_isLaidOut text
  rwa [laidOut.words_eq]

/-- Texts differ only in their gaps exactly if they have the same words. -/
theorem sameButForGaps_iff {left right : String} :
    SameButForGaps left right ↔ words left = words right := by
  constructor
  · rintro ⟨list, laidOut, laidOutToo⟩
    exact laidOut.words_eq.trans laidOutToo.words_eq.symm
  · intro same
    exact ⟨words right, words_eq_iff_isLaidOut.1 same, words_eq_iff_isLaidOut.1 rfl⟩

/-- The words of a text that is laid out are the given ones, whatever the gaps are. Every text is laid
out with its own words. Texts that differ only in their gaps are read as the same tokens, or refused
with the same failure. -/
theorem layout_has_no_meaning :
    (∀ (list : List String) (gap : Nat → String), (∀ word ∈ list, IsWord word) →
      IsSpacing gap list.length → words (layOut gap list) = list) ∧
    (∀ text, ∃ gap, (∀ word ∈ words text, IsWord word) ∧ IsSpacing gap (words text).length ∧
      layOut gap (words text) = text) ∧
    ∀ left right, SameButForGaps left right → parse left = parse right := by
  refine ⟨fun list gap areWords spacing => words_layOut spacing areWords, fun text => ?_,
    fun left right same => ?_⟩
  · obtain ⟨areWords, gap, spacing, laidOut⟩ := words_eq_iff_isLaidOut.1 (rfl : words text = _)
    exact ⟨gap, areWords, spacing, laidOut⟩
  · rw [parse, parse, sameButForGaps_iff.1 same]

/-- Words with a tab, a wide space and ends of lines between them, and the same with a space around
each. -/
theorem layout_has_no_meaning_mixed :
    let list := ["1", "2", "+"]
    let gap : Nat → String
      | 0 => ""
      | 1 => "\t\u3000"
      | _ => "\r\n"
    (∀ word ∈ list, IsWord word) ∧ IsSpacing gap list.length ∧
    words "1\t\u30002\r\n+\r\n" = list ∧ parse "1\t\u30002\r\n+\r\n" = parse " 1 2 + " := by
  intro list gap
  have areWords : ∀ word ∈ list, IsWord word := by decide
  have spacing : IsSpacing gap list.length := by
    refine ⟨fun number => ?_, fun number positive _ => ?_⟩
    · match number with
      | 0 | 1 => decide
      | _ + 2 =>
        show "\r\n".toList.all isBlank = true
        decide
    · match number with
      | 1 => decide
      | _ + 2 =>
        show "\r\n".toList ≠ []
        decide
  have laidOut : IsLaidOut list "1\t\u30002\r\n+\r\n" := ⟨areWords, gap, spacing, by decide⟩
  have evenly : IsLaidOut list " 1 2 + " := ⟨areWords, fun _ => " ", isSpacing_space 3, by decide⟩
  obtain ⟨wordsOf, -, parseOf⟩ := layout_has_no_meaning
  exact ⟨areWords, spacing, wordsOf list gap areWords spacing, parseOf _ _ ⟨list, laidOut, evenly⟩⟩

end Forth.Text
