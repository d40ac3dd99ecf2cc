/-
This file relates what a dictionary answers to the definitions that it holds. A
body that is found is the body of one of them, and storing a word adds no other
definition than its own.

The definitions of a vocabulary are in order, so it has no two of one name, and a
vocabulary is known as soon as the body of every word is.
-/

import Forth.Dictionary

namespace Forth

/-! ### Words in a vocabulary -/

theorem Definition.find?_cons (first : Definition) (rest : List Definition) (name : String) :
    (first :: rest).find? (·.name == name) =
      if first.name = name then some first else rest.find? (·.name == name) := by
  by_cases here : first.name = name
  · rw [if_pos here, List.find?_cons_of_pos (by simp [here])]
  · rw [if_neg here, List.find?_cons_of_neg (by simp [here])]

theorem Definition.find?_insert (definition : Definition) (definitions : List Definition)
    (name : String) :
    (definition.insert definitions).find? (·.name == name) =
      if definition.name = name then some definition else definitions.find? (·.name == name) := by
  induction definitions with
  | nil => rw [insert, find?_cons]
  | cons first rest inductionHypothesis =>
    rw [insert, find?_cons]
    by_cases less : definition.name < first.name
    · rw [if_pos less, find?_cons, find?_cons]
    rw [if_neg less]
    by_cases greater : first.name < definition.name
    · rw [if_pos greater, find?_cons, inductionHypothesis]
      by_cases here : first.name = name
      · rw [if_pos here, if_neg (here ▸ (String.ne_of_lt greater).symm), if_pos here]
      · rw [if_neg here, if_neg here]
    · have same : first.name = definition.name :=
        String.le_antisymm (String.not_lt.1 less) (String.not_lt.1 greater)
      rw [if_neg greater, find?_cons, same]
      split <;> rfl

namespace Vocabulary

theorem find?_insert (vocabulary : Vocabulary) (name other : String) (body : List Token) :
    (vocabulary.insert name body).find? other =
      if name = other then some body else vocabulary.find? other := by
  rw [find?, insert, Definition.find?_insert]
  split <;> rfl

theorem mem_definitions_of_find? {vocabulary : Vocabulary} {name : String} {body : List Token}
    (found : vocabulary.find? name = some body) : ⟨name, body⟩ ∈ vocabulary.definitions := by
  obtain ⟨definition, located, rfl⟩ := Option.map_eq_some_iff.1 found
  obtain rfl : definition.name = name := by simpa using List.find?_some located
  exact List.mem_of_find?_eq_some located

/-- Of every name there is at most one definition, so each of them is found. -/
theorem find?_of_mem_definitions {vocabulary : Vocabulary} {definition : Definition}
    (member : definition ∈ vocabulary.definitions) :
    vocabulary.find? definition.name = some definition.body := by
  obtain ⟨definitions, ordered⟩ := vocabulary
  unfold find?
  induction definitions with
  | nil => cases member
  | cons first rest inductionHypothesis =>
    obtain ⟨firstLess, restOrdered⟩ := List.pairwise_cons.1 ordered
    rw [Definition.find?_cons]
    rcases List.mem_cons.1 member with rfl | later
    · rw [if_pos rfl]
      rfl
    · rw [if_neg (String.ne_of_lt (firstLess definition later))]
      exact inductionHypothesis restOrdered later

theorem mem_definitions_iff {vocabulary : Vocabulary} {definition : Definition} :
    definition ∈ vocabulary.definitions ↔
      vocabulary.find? definition.name = some definition.body :=
  ⟨find?_of_mem_definitions, mem_definitions_of_find?⟩

theorem nodup_definitions (vocabulary : Vocabulary) : vocabulary.definitions.Nodup :=
  vocabulary.ordered.imp fun less same => String.ne_of_lt less (congrArg Definition.name same)

/-- Vocabularies in which every word has the same body are the same. -/
theorem ext_find? {left right : Vocabulary} (same : ∀ name, left.find? name = right.find? name) :
    left = right := by
  have members (definition : Definition) :
      definition ∈ left.definitions ↔ definition ∈ right.definitions := by
    rw [mem_definitions_iff, mem_definitions_iff, same]
  have permuted := (List.perm_ext_iff_of_nodup left.nodup_definitions right.nodup_definitions).2
    members
  have definitions : left.definitions = right.definitions :=
    permuted.eq_of_pairwise (fun first second _ _ less greater =>
      absurd greater (String.lt_asymm less)) left.ordered right.ordered
  cases left
  cases definitions
  rfl

theorem mem_names_iff {vocabulary : Vocabulary} {name : String} :
    name ∈ vocabulary.names ↔ ∃ body, vocabulary.find? name = some body := by
  rw [names, List.mem_map]
  constructor
  · rintro ⟨definition, member, rfl⟩
    exact ⟨definition.body, mem_definitions_iff.1 member⟩
  · rintro ⟨body, found⟩
    exact ⟨⟨name, body⟩, mem_definitions_of_find? found, rfl⟩

theorem pairwise_names (vocabulary : Vocabulary) : vocabulary.names.Pairwise (· < ·) :=
  List.pairwise_map.2 vocabulary.ordered

theorem nodup_names (vocabulary : Vocabulary) : vocabulary.names.Nodup :=
  vocabulary.pairwise_names.imp String.ne_of_lt

end Vocabulary

namespace Dictionary

/-- The definitions in a dictionary. A dictionary that was closed has none. -/
def definitions (dictionary : Dictionary) : List Definition :=
  match dictionary.contents? with
  | some vocabulary => vocabulary.definitions
  | none => []

theorem mem_definitions_of_search {dictionary : Dictionary} {name : String} {body : List Token}
    (found : dictionary.search name = .ok (some body)) :
    ⟨name, body⟩ ∈ dictionary.definitions := by
  obtain ⟨_ | vocabulary⟩ := dictionary
  case none => cases found
  case some => exact Vocabulary.mem_definitions_of_find? (Except.ok.inj found)

theorem mem_definitions_of_store {dictionary next : Dictionary} {name : String}
    {body : List Token} {definition : Definition} (stored : dictionary.store name body = .ok next)
    (member : definition ∈ next.definitions) :
    definition = ⟨name, body⟩ ∨ definition ∈ dictionary.definitions := by
  obtain ⟨_ | vocabulary⟩ := dictionary
  case none => cases stored
  case some =>
    cases stored
    exact Definition.mem_of_mem_insert member

/-- Whether a name is that of a word. -/
def Knows (dictionary : Dictionary) (name : String) : Prop :=
  ∃ body, dictionary.search name = .ok (some body)

/-- A word stays known, whatever is stored. -/
theorem Knows.of_store {dictionary next : Dictionary} {name other : String} {body : List Token}
    (known : dictionary.Knows other) (stored : dictionary.store name body = .ok next) :
    next.Knows other := by
  obtain ⟨_ | vocabulary⟩ := dictionary
  · cases stored
  · cases stored
    obtain ⟨old, found⟩ := known
    have searched : vocabulary.find? other = some old := Except.ok.inj found
    refine ⟨if name = other then body else old,
      congrArg Except.ok ((vocabulary.find?_insert name other body).trans ?_)⟩
    rw [searched]
    split <;> rfl

theorem knows_of_store {dictionary next : Dictionary} {name : String} {body : List Token}
    (stored : dictionary.store name body = .ok next) : next.Knows name := by
  obtain ⟨_ | vocabulary⟩ := dictionary
  · cases stored
  · cases stored
    exact ⟨body, congrArg Except.ok ((vocabulary.find?_insert name name body).trans (if_pos rfl))⟩

end Dictionary

end Forth
