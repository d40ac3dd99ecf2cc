/-
This file defines the dictionary of a running program: which words are defined
and what their bodies are. The definitions are kept in the order of their
names, so there is only one dictionary with given definitions. Defining a word
again replaces its body. A dictionary that was closed has no definitions any
more and refuses to be used.
-/

import Forth.Token
import Forth.Diagnostic

namespace Forth

/-! ### Definitions in order -/

/-- The definition of a word. -/
structure Definition where
  name : String
  body : List Token

/-- Puts a definition among definitions in order of their names, in place of the one with the
same name. -/
def Definition.insert (definition : Definition) : List Definition → List Definition
  | [] => [definition]
  | first :: rest =>
    if definition.name < first.name then definition :: first :: rest
    else if first.name < definition.name then first :: definition.insert rest
    else definition :: rest

/-- Nothing but the new definition is added. -/
theorem Definition.mem_of_mem_insert {definition other : Definition}
    {definitions : List Definition} (member : other ∈ definition.insert definitions) :
    other = definition ∨ other ∈ definitions := by
  induction definitions with
  | nil => simpa [insert] using member
  | cons first rest inductionHypothesis =>
    unfold insert at member
    split at member
    · simpa using member
    · split at member
      · rcases List.mem_cons.1 member with here | later
        · exact .inr (here ▸ List.mem_cons_self)
        · exact (inductionHypothesis later).imp_right (List.mem_cons_of_mem _)
      · rcases List.mem_cons.1 member with here | later
        · exact .inl here
        · exact .inr (List.mem_cons_of_mem _ later)

/-- Definitions are in order if each name is less than all names after it. -/
def InOrder (definitions : List Definition) : Prop :=
  definitions.Pairwise fun first second => first.name < second.name

/-- Insertion keeps definitions in order. -/
theorem InOrder.insert {definitions : List Definition} (ordered : InOrder definitions)
    (definition : Definition) : InOrder (definition.insert definitions) := by
  induction definitions with
  | nil => exact List.pairwise_singleton _ _
  | cons first rest inductionHypothesis =>
    have ⟨firstLess, restOrdered⟩ := List.pairwise_cons.1 ordered
    unfold Definition.insert
    split
    next less =>
      refine List.pairwise_cons.2 ⟨fun other member => ?_, ordered⟩
      rcases List.mem_cons.1 member with here | later
      · exact here ▸ less
      · exact String.lt_trans less (firstLess other later)
    next notLess =>
      split
      next greater =>
        refine List.pairwise_cons.2 ⟨fun other member => ?_, inductionHypothesis restOrdered⟩
        rcases Definition.mem_of_mem_insert member with here | later
        · exact here ▸ greater
        · exact firstLess other later
      next notGreater =>
        have same : definition.name = first.name :=
          String.le_antisymm (String.not_lt.1 notGreater) (String.not_lt.1 notLess)
        exact List.pairwise_cons.2 ⟨fun other member => same ▸ firstLess other member, restOrdered⟩

/-- The definitions of words, one for each name, in the order of their names. -/
structure Vocabulary where
  definitions : List Definition
  ordered : InOrder definitions

namespace Vocabulary

/-- No definitions. -/
def empty : Vocabulary :=
  ⟨[], List.Pairwise.nil⟩

/-- The vocabulary in which a name has the given body and all other names are as before. -/
def insert (vocabulary : Vocabulary) (name : String) (body : List Token) : Vocabulary :=
  ⟨Definition.insert ⟨name, body⟩ vocabulary.definitions, vocabulary.ordered.insert _⟩

/-- The body of a word. -/
def find? (vocabulary : Vocabulary) (name : String) : Option (List Token) :=
  (vocabulary.definitions.find? fun definition => definition.name == name).map Definition.body

/-- The defined names, in order. -/
def names (vocabulary : Vocabulary) : List String :=
  vocabulary.definitions.map Definition.name

end Vocabulary

/-! ### The dictionary -/

/-- A dictionary: its vocabulary, or nothing after it was closed. -/
structure Dictionary where
  contents? : Option Vocabulary

namespace Dictionary

/-- An open dictionary without definitions. -/
def empty : Dictionary :=
  ⟨some Vocabulary.empty⟩

/-- An open dictionary with the given definitions, of which the last of each name counts. -/
def ofList (definitions : List Definition) : Dictionary :=
  ⟨some (definitions.foldl (fun vocabulary definition =>
    vocabulary.insert definition.name definition.body) Vocabulary.empty)⟩

/-- A dictionary that was closed. -/
def closed : Dictionary :=
  ⟨none⟩

/-- Whether a dictionary was closed. -/
def isClosed (dictionary : Dictionary) : Bool :=
  dictionary.contents?.isNone

/-- What an open dictionary makes of its vocabulary. -/
def withVocabulary {Result : Type} (dictionary : Dictionary) (use : Vocabulary → Result) :
    Except RuntimeError Result :=
  match dictionary.contents? with
  | some vocabulary => .ok (use vocabulary)
  | none => .error .dictionaryClosed

/-- Defines a word, for the first time or again. -/
def store (dictionary : Dictionary) (name : String) (body : List Token) :
    Except RuntimeError Dictionary :=
  dictionary.withVocabulary fun vocabulary => ⟨some (vocabulary.insert name body)⟩

/-- The body of a word, if it is defined. -/
def search (dictionary : Dictionary) (name : String) : Except RuntimeError (Option (List Token)) :=
  dictionary.withVocabulary fun vocabulary => vocabulary.find? name

/-- Whether a word is defined, be it with an empty body. -/
def contains (dictionary : Dictionary) (name : String) : Except RuntimeError Bool :=
  dictionary.withVocabulary fun vocabulary => (vocabulary.find? name).isSome

/-- The names of the defined words, in order. -/
def names (dictionary : Dictionary) : Except RuntimeError (List String) :=
  dictionary.withVocabulary Vocabulary.names

/-! ### Requests -/

/-- What can be asked of a dictionary. -/
inductive Request where
  | store (name : String) (body : List Token)
  | search (name : String)
  | contains (name : String)
  | names
  | isClosed
  | close
  /-- Use the dictionary for a while and close it at the end. -/
  | leave

/-- What a dictionary answers. -/
inductive Answer where
  | body (body : Option (List Token))
  | names (names : List String)
  | truth (holds : Bool)
  | nothing

/-- The answer to a question, which leaves the dictionary as it is. -/
def answerQuestion {Result : Type} (dictionary : Dictionary) (answer : Result → Answer)
    (question : Except RuntimeError Result) : Except RuntimeError Answer × Dictionary :=
  match question with
  | .ok result => (.ok (answer result), dictionary)
  | .error error => (.error error, dictionary)

/-- The answer to a request, and the dictionary after it. -/
def perform (dictionary : Dictionary) : Request → Except RuntimeError Answer × Dictionary
  | .store name body =>
    match dictionary.store name body with
    | .ok next => (.ok .nothing, next)
    | .error error => (.error error, dictionary)
  | .search name => dictionary.answerQuestion .body (dictionary.search name)
  | .contains name => dictionary.answerQuestion .truth (dictionary.contains name)
  | .names => dictionary.answerQuestion .names dictionary.names
  | .isClosed => (.ok (.truth dictionary.isClosed), dictionary)
  | .close => (.ok .nothing, closed)
  | .leave => (.ok (.truth true), closed)

end Dictionary

end Forth
