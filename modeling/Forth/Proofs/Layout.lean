/-
This file says how the words of a text depend on its parts. A gap of blank
characters always divides words, so the words of two texts with a gap between
them are the words of the one followed by the words of the other. It does not
matter which gap it is.

Words are made of the characters of the text, and only blank characters are lost
when a text is trimmed.

In the other direction, a text can be made of any words by putting gaps between
them. Its words are the given ones, whatever the gaps are.
-/

import Forth.Text.Blank

namespace Forth.Text

/-- Blank characters in front of a text add no words. -/
theorem splitAfter_nil_append {gap : List Char} (blank : gap.all isBlank = true)
    (text : List Char) : splitAfter [] (gap ++ text) = splitAfter [] text := by
  induction gap with
  | nil => rfl
  | cons character rest inductionHypothesis =>
    rw [List.all_cons, Bool.and_eq_true] at blank
    rw [List.cons_append, splitAfter, if_pos blank.1, inductionHypothesis blank.2]
    rfl

theorem splitAfter_append {gap : List Char} (blank : gap.all isBlank = true) (nonempty : gap ≠ [])
    (reversed left right : List Char) :
    splitAfter reversed (left ++ (gap ++ right)) =
      splitAfter reversed left ++ splitAfter [] right := by
  induction left generalizing reversed with
  | nil =>
    obtain ⟨character, rest, rfl⟩ := List.exists_cons_of_ne_nil nonempty
    rw [List.all_cons, Bool.and_eq_true] at blank
    have ends : splitAfter reversed (character :: (rest ++ right)) =
        finishWord reversed ++ splitAfter [] (rest ++ right) := by
      rw [splitAfter, if_pos blank.1]
    rw [List.nil_append, List.cons_append, ends, splitAfter_nil_append blank.2, splitAfter]
  | cons character rest inductionHypothesis =>
    rw [List.cons_append, splitAfter, splitAfter]
    split
    next => rw [inductionHypothesis, List.append_assoc]
    next => exact inductionHypothesis _

/-- A gap divides the words before it from those after it. -/
theorem words_append_gap {gap : String} (blank : gap.toList.all isBlank = true)
    (nonempty : gap.toList ≠ []) (left right : String) :
    words (left ++ gap ++ right) = words left ++ words right := by
  unfold words splitWords
  rw [String.toList_append, String.toList_append, List.append_assoc,
    splitAfter_append blank nonempty, List.map_append]

/-- The end of a line divides words. -/
theorem words_append_line (left right : String) :
    words (left ++ "\n" ++ right) = words left ++ words right :=
  words_append_gap (by decide) (by decide) left right

/-- The words of lines with gaps between them are those of the lines. -/
theorem words_intercalate {gap : String} (blank : gap.toList.all isBlank = true)
    (nonempty : gap.toList ≠ []) (lines : List String) :
    words (gap.intercalate lines) = lines.flatMap words := by
  induction lines with
  | nil => rfl
  | cons first rest inductionHypothesis =>
    cases rest with
    | nil => simp only [String.intercalate_singleton, List.flatMap_cons, List.flatMap_nil,
        List.append_nil]
    | cons second others =>
      rw [String.intercalate_cons_cons, words_append_gap blank nonempty, inductionHypothesis]
      rfl

/-! ### The characters of words -/

theorem mem_of_mem_splitAfter {reversed text word : List Char} {character : Char}
    (member : word ∈ splitAfter reversed text) (within : character ∈ word) :
    character ∈ reversed ∨ character ∈ text := by
  have spelled {run : List Char} (finished : word ∈ finishWord run) : character ∈ run := by
    unfold finishWord at finished
    split at finished
    · cases finished
    · rw [List.mem_singleton.1 finished] at within
      exact List.mem_reverse.1 within
  induction text generalizing reversed with
  | nil => exact .inl (spelled member)
  | cons first rest inductionHypothesis =>
    rw [splitAfter] at member
    split at member
    · obtain finished | later := List.mem_append.1 member
      · exact .inl (spelled finished)
      · obtain none | after := inductionHypothesis later
        · cases none
        · exact .inr (List.mem_cons_of_mem _ after)
    · obtain before | after := inductionHypothesis member
      · obtain rfl | earlier := List.mem_cons.1 before
        · exact .inr List.mem_cons_self
        · exact .inl earlier
      · exact .inr (List.mem_cons_of_mem _ after)

/-- A word has no characters but those of its text. -/
theorem mem_toList_of_mem_words {text word : String} {character : Char} (member : word ∈ words text)
    (within : character ∈ word.toList) : character ∈ text.toList := by
  obtain ⟨characters, spelled, rfl⟩ := List.mem_map.1 member
  rw [String.toList_ofList] at within
  obtain none | inText := mem_of_mem_splitAfter spelled within
  · cases none
  · exact inText

theorem mem_dropWhile_of_not {isKind : Char → Bool} {characters : List Char} {character : Char}
    (member : character ∈ characters) (other : isKind character = false) :
    character ∈ characters.dropWhile isKind := by
  induction characters with
  | nil => cases member
  | cons first rest inductionHypothesis =>
    rw [List.dropWhile_cons]
    split
    next kind =>
      obtain rfl | later := List.mem_cons.1 member
      · rw [other] at kind
        cases kind
      · exact inductionHypothesis later
    next => exact member

/-- Trimming keeps what is not blank. -/
theorem mem_toList_trim {text : String} {character : Char} (member : character ∈ text.toList)
    (notBlank : isBlank character = false) : character ∈ (trim text).toList := by
  rw [trim, String.toList_ofList, trimWhile, List.mem_reverse]
  exact mem_dropWhile_of_not (List.mem_reverse.2 (mem_dropWhile_of_not member notBlank)) notBlank

/-! ### Words with gaps around them -/

/-- Whether a text can be a word: it has characters, and none of them is blank. -/
structure IsWord (text : String) : Prop where
  nonempty : text.toList ≠ []
  solid : ∀ character ∈ text.toList, isBlank character = false

/-- Whether a text can be a word is found by looking at each of its characters. -/
instance (text : String) : Decidable (IsWord text) :=
  decidable_of_iff (text.toList ≠ [] ∧ text.toList.any isBlank = false)
    ⟨fun ⟨nonempty, solid⟩ => ⟨nonempty, fun character member =>
        Bool.eq_false_iff.2 (List.any_eq_false.1 solid character member)⟩,
      fun ⟨nonempty, solid⟩ => ⟨nonempty, List.any_eq_false.2 fun character member =>
        Bool.eq_false_iff.1 (solid character member)⟩⟩

/-- The characters that are collected for a word make up a word whenever it is finished. -/
theorem solid_of_mem_splitAfter {reversed text word : List Char}
    (solid : ∀ character ∈ reversed, isBlank character = false)
    (member : word ∈ splitAfter reversed text) :
    word ≠ [] ∧ ∀ character ∈ word, isBlank character = false := by
  have finished {run : List Char} (solid : ∀ character ∈ run, isBlank character = false)
      (member : word ∈ finishWord run) :
      word ≠ [] ∧ ∀ character ∈ word, isBlank character = false := by
    unfold finishWord at member
    split at member
    next => cases member
    next nonempty =>
      rw [List.mem_singleton.1 member]
      refine ⟨fun empty => nonempty ?_, fun character within =>
        solid character (List.mem_reverse.1 within)⟩
      rw [List.reverse_eq_nil_iff.1 empty]
      rfl
  induction text generalizing reversed with
  | nil => exact finished solid member
  | cons character rest inductionHypothesis =>
    rw [splitAfter] at member
    split at member
    next =>
      obtain here | later := List.mem_append.1 member
      · exact finished solid here
      · exact inductionHypothesis (List.forall_mem_nil _) later
    next notBlank =>
      exact inductionHypothesis
        (List.forall_mem_cons.2 ⟨Bool.eq_false_iff.2 notBlank, solid⟩) member

/-- The words of a text are words. -/
theorem isWord_of_mem_words {text word : String} (member : word ∈ words text) : IsWord word := by
  obtain ⟨characters, spelled, rfl⟩ := List.mem_map.1 member
  obtain ⟨nonempty, solid⟩ := solid_of_mem_splitAfter (List.forall_mem_nil _) spelled
  exact ⟨by rwa [String.toList_ofList], by rwa [String.toList_ofList]⟩

/-- Words with a gap in front of each and one after the last. The gaps are numbered from left to
right. -/
def layOut (gap : Nat → String) : List String → String
  | [] => gap 0
  | word :: rest => gap 0 ++ word ++ layOut (fun number => gap (number + 1)) rest

/-- Whether gaps keep a number of words apart. They are blank, and only those at the two ends may be
empty. -/
structure IsSpacing (gap : Nat → String) (count : Nat) : Prop where
  blank : ∀ number, (gap number).toList.all isBlank = true
  between : ∀ number, 0 < number → number < count → (gap number).toList ≠ []

/-- Whether the character that a text begins with, if any, divides words. -/
def BeginsBlank (text : List Char) : Prop :=
  ∀ character rest, text = character :: rest → isBlank character = true

theorem beginsBlank_of_all {gap : List Char} (blank : gap.all isBlank = true) : BeginsBlank gap := by
  rintro character rest rfl
  exact (Bool.and_eq_true_iff.1 (List.all_cons ▸ blank)).1

theorem BeginsBlank.append {gap : List Char} (begins : BeginsBlank gap) (nonempty : gap ≠ [])
    (text : List Char) : BeginsBlank (gap ++ text) := by
  rintro character rest same
  obtain ⟨first, others, rfl⟩ := List.exists_cons_of_ne_nil nonempty
  exact begins character others (by rw [(List.cons.inj same).1])

/-- The characters of a word are collected up to a blank one. -/
theorem splitAfter_append_of_solid {characters text : List Char}
    (solid : ∀ character ∈ characters, isBlank character = false) (begins : BeginsBlank text)
    (reversed : List Char) :
    splitAfter reversed (characters ++ text) =
      finishWord (characters.reverse ++ reversed) ++ splitAfter [] text := by
  induction characters generalizing reversed with
  | nil =>
    show splitAfter reversed text = finishWord reversed ++ splitAfter [] text
    cases text with
    | nil => exact (List.append_nil _).symm
    | cons character rest =>
      have blank := begins character rest rfl
      rw [splitAfter, splitAfter, if_pos blank, if_pos blank]
      rfl
  | cons character rest inductionHypothesis =>
    have ⟨firstSolid, restSolid⟩ := List.forall_mem_cons.1 solid
    rw [List.cons_append, splitAfter, firstSolid, if_neg Bool.false_ne_true,
      inductionHypothesis restSolid, List.reverse_cons, List.append_assoc]
    rfl

/-- A gap and a word come before the words of what follows, if that begins blank. -/
theorem words_gap_word_append {gap word : String} (blank : gap.toList.all isBlank = true)
    (isWord : IsWord word) {text : String} (begins : BeginsBlank text.toList) :
    words (gap ++ word ++ text) = word :: words text := by
  have finished : finishWord word.toList.reverse = [word.toList] := by
    simp [finishWord, isWord.nonempty]
  unfold words splitWords
  rw [String.toList_append, String.toList_append, List.append_assoc, splitAfter_nil_append blank,
    splitAfter_append_of_solid isWord.solid begins, List.append_nil, finished, List.map_append,
    List.map_singleton, String.ofList_toList]
  rfl

theorem IsSpacing.beginsBlank_layOut {gap : Nat → String} {list : List String}
    (spacing : IsSpacing gap (list.length + 1)) :
    BeginsBlank (layOut (fun number => gap (number + 1)) list).toList := by
  have begins := beginsBlank_of_all (spacing.blank 1)
  cases list with
  | nil => exact begins
  | cons word rest =>
    rw [layOut, String.toList_append, String.toList_append, List.append_assoc]
    exact begins.append (spacing.between 1 (by decide) (by simp)) _

/-- The words of a text that was laid out are the given ones, whatever the gaps are. -/
theorem words_layOut {gap : Nat → String} {list : List String}
    (spacing : IsSpacing gap list.length) (areWords : ∀ word ∈ list, IsWord word) :
    words (layOut gap list) = list := by
  induction list generalizing gap with
  | nil =>
    have blank := splitAfter_nil_append (spacing.blank 0) []
    rw [List.append_nil] at blank
    rw [layOut, words, splitWords, blank]
    rfl
  | cons word rest inductionHypothesis =>
    have ⟨isWord, restWords⟩ := List.forall_mem_cons.1 areWords
    have shifted : IsSpacing (fun number => gap (number + 1)) rest.length :=
      ⟨fun number => spacing.blank (number + 1), fun number _ within =>
        spacing.between (number + 1) (Nat.succ_pos _) (Nat.succ_lt_succ within)⟩
    rw [layOut, words_gap_word_append (spacing.blank 0) isWord spacing.beginsBlank_layOut,
      inductionHypothesis shifted restWords]

/-- Words can always be laid out with a space around each. -/
theorem isSpacing_space (count : Nat) : IsSpacing (fun _ => " ") count :=
  ⟨fun _ => by decide, fun _ _ _ => by decide⟩

/-- Words that come from a text make up a text of their own. -/
theorem exists_words_eq {text : String} {list : List String} (among : list ⊆ words text) :
    ∃ own, words own = list :=
  ⟨layOut (fun _ => " ") list, words_layOut (isSpacing_space list.length) fun _ member =>
    isWord_of_mem_words (among member)⟩

/-- A word by itself is a text with this one word. -/
theorem words_of_isWord {word : String} (isWord : IsWord word) : words word = [word] := by
  have spacing : IsSpacing (fun _ => "") 1 :=
    ⟨fun _ => rfl, fun number positive within =>
      absurd positive (Nat.not_lt.2 (Nat.le_of_lt_succ within))⟩
  have laidOut := words_layOut spacing (List.forall_mem_singleton.2 isWord)
  rwa [layOut, layOut, String.empty_append, String.append_empty] at laidOut

end Forth.Text
