/-
This file says what a dictionary is to those who use it: a memory of what was
written. It begins with some definitions, and every definition that is stored is
written after them. A word has the body that was written last under its name, and
the names are all that were ever written, each once and in order. So a definition
has no influence on words of other names. Once the dictionary is closed, everything
is forgotten and it can only be closed again.

What one request does to the memory is said by `remember`, and what is told of it by
`Told`. The main statement follows any number of requests from the initial
definitions on.
-/

import Forth.Proofs.ListModel
import Forth.Proofs.Vocabulary

namespace Forth

/-! ### One request among others -/

section Requests

variable {State Request Answer : Type} (perform : State → Request → Answer × State)

/-- What earlier requests leave is what the next one is asked of. -/
theorem getElem?_performAll (state : State) (earlier later : List Request) (request : Request) :
    (performAll perform state (earlier ++ request :: later)).1[earlier.length]? =
      some (perform (performAll perform state earlier).2 request).1 := by
  induction earlier generalizing state with
  | nil => rfl
  | cons first earlier inductionHypothesis => exact inductionHypothesis (perform state first).2

theorem performAll_concat_snd (state : State) (earlier : List Request) (request : Request) :
    (performAll perform state (earlier ++ [request])).2 =
      (perform (performAll perform state earlier).2 request).2 := by
  induction earlier generalizing state with
  | nil => rfl
  | cons first earlier inductionHypothesis => exact inductionHypothesis (perform state first).2

end Requests

/-! ### The body that was written last -/

/-- The body that was written last under a name, where the earliest definition comes first. -/
def latest? (written : List Definition) (name : String) : Option (List Token) :=
  (written.reverse.find? (·.name == name)).map Definition.body

theorem latest?_concat (written : List Definition) (definition : Definition) (name : String) :
    latest? (written ++ [definition]) name =
      if definition.name = name then some definition.body else latest? written name := by
  rw [latest?, List.reverse_append, List.reverse_singleton, List.singleton_append,
    Definition.find?_cons]
  split <;> rfl

/-- Every name that was written has a latest body, be it empty. -/
theorem isSome_latest? (written : List Definition) (name : String) :
    (latest? written name).isSome = decide (∃ definition ∈ written, definition.name = name) := by
  rw [latest?, Option.isSome_map, List.isSome_find?, Bool.eq_iff_iff, List.any_eq_true,
    decide_eq_true_iff]
  simp only [List.mem_reverse, beq_iff_eq]

/-- Whether a vocabulary has for every word the body that was written last. -/
def Vocabulary.Remembers (vocabulary : Vocabulary) (written : List Definition) : Prop :=
  ∀ name, vocabulary.find? name = latest? written name

namespace Vocabulary.Remembers

variable {vocabulary : Vocabulary} {written : List Definition}

theorem insert (remembers : vocabulary.Remembers written) (definition : Definition) :
    (vocabulary.insert definition.name definition.body).Remembers (written ++ [definition]) := by
  intro name
  rw [find?_insert, latest?_concat, remembers name]

theorem foldl_insert (remembers : vocabulary.Remembers written) (definitions : List Definition) :
    (definitions.foldl (fun vocabulary definition =>
      vocabulary.insert definition.name definition.body) vocabulary).Remembers
      (written ++ definitions) := by
  induction definitions generalizing vocabulary written with
  | nil =>
    rw [List.append_nil]
    exact remembers
  | cons definition rest inductionHypothesis =>
    rw [List.append_cons]
    exact inductionHypothesis (remembers.insert definition)

theorem mem_names_iff (remembers : vocabulary.Remembers written) {name : String} :
    name ∈ vocabulary.names ↔ ∃ definition ∈ written, definition.name = name := by
  rw [Vocabulary.mem_names_iff, remembers name, ← Option.isSome_iff_exists, isSome_latest?,
    decide_eq_true_iff]

end Vocabulary.Remembers

namespace Dictionary

/-! ### What a request does to the memory -/

/-- The definition that a request writes. -/
def Request.written? : Request → Option Definition
  | .store name body => some ⟨name, body⟩
  | _ => none

/-- Whether a request closes the dictionary. -/
def Request.closes : Request → Bool
  | .close | .leave => true
  | _ => false

/-- What is written after a request, if that was written before. There is nothing after closing. -/
def remember (memory : Option (List Definition)) (request : Request) : Option (List Definition) :=
  if request.closes then none else memory.map (· ++ request.written?.toList)

/-- Whether a request is about definitions, so that only an open dictionary can answer. -/
def Request.NeedsDefinitions : Request → Prop
  | .store _ _ | .search _ | .contains _ | .names => True
  | .isClosed | .close | .leave => False

/-- What is told on a request, if all that was written is given, or nothing after closing. -/
inductive Told : Option (List Definition) → Request → Except RuntimeError Answer → Prop where
  | store (written : List Definition) (name : String) (body : List Token) :
      Told (some written) (.store name body) (.ok .nothing)
  | search (written : List Definition) (name : String) :
      Told (some written) (.search name) (.ok (.body (latest? written name)))
  | contains (written : List Definition) (name : String) :
      Told (some written) (.contains name)
        (.ok (.truth (decide (∃ definition ∈ written, definition.name = name))))
  | names (written : List Definition) (names : List String) (ascending : names.Pairwise (· < ·))
      (all : ∀ name, name ∈ names ↔ ∃ definition ∈ written, definition.name = name) :
      Told (some written) .names (.ok (.names names))
  | refused (request : Request) (needs : request.NeedsDefinitions) :
      Told none request (.error .dictionaryClosed)
  | isClosed (memory : Option (List Definition)) :
      Told memory .isClosed (.ok (.truth memory.isNone))
  | close (memory : Option (List Definition)) : Told memory .close (.ok .nothing)
  | leave (memory : Option (List Definition)) : Told memory .leave (.ok (.truth true))

/-- Whether a dictionary remembers what was written, or has been closed if nothing is left of it. -/
def Remembers (dictionary : Dictionary) (memory : Option (List Definition)) : Prop :=
  Option.Rel Vocabulary.Remembers dictionary.contents? memory

/-- A dictionary tells what it remembers, and remembers what it is asked to. -/
theorem Remembers.told {dictionary : Dictionary} {memory : Option (List Definition)}
    (remembers : dictionary.Remembers memory) (request : Request) :
    Told memory request (dictionary.perform request).1 ∧
      (dictionary.perform request).2.Remembers (remember memory request) := by
  obtain ⟨contents⟩ := dictionary
  cases remembers with
  | none =>
    cases request with
    | store | search | contains | names => exact ⟨.refused _ trivial, .none⟩
    | isClosed => exact ⟨.isClosed none, .none⟩
    | close => exact ⟨.close none, .none⟩
    | leave => exact ⟨.leave none, .none⟩
  | @some vocabulary written remembers =>
    have unchanged : vocabulary.Remembers (written ++ []) := by
      rw [List.append_nil]
      exact remembers
    cases request with
    | store name body =>
      exact ⟨.store written name body, .some (remembers.insert ⟨name, body⟩)⟩
    | search name =>
      have told := Told.search written name
      rw [← remembers name] at told
      exact ⟨told, .some unchanged⟩
    | contains name =>
      have told := Told.contains written name
      rw [← isSome_latest?, ← remembers name] at told
      exact ⟨told, .some unchanged⟩
    | names =>
      exact ⟨.names written vocabulary.names vocabulary.pairwise_names
        fun name => remembers.mem_names_iff, .some unchanged⟩
    | isClosed => exact ⟨.isClosed (some written), .some unchanged⟩
    | close => exact ⟨.close (some written), .none⟩
    | leave => exact ⟨.leave (some written), .none⟩

/-! ### Any number of requests -/

/-- After any number of requests, a dictionary remembers what they have left of the memory. -/
theorem Remembers.performAll {dictionary : Dictionary} {memory : Option (List Definition)}
    (remembers : dictionary.Remembers memory) (requests : List Request) :
    (performAll perform dictionary requests).2.Remembers (requests.foldl remember memory) := by
  induction requests generalizing dictionary memory with
  | nil => exact remembers
  | cons request rest inductionHypothesis => exact inductionHypothesis (remembers.told request).2

theorem remembers_ofList (initial : List Definition) :
    (ofList initial).Remembers (some initial) := by
  have nothing : Vocabulary.empty.Remembers [] := fun _ => rfl
  exact .some (nothing.foldl_insert initial)

/-- What was written initially and by requests, unless one of them has closed the dictionary. -/
def memoryAfter (initial : List Definition) (requests : List Request) : Option (List Definition) :=
  if requests.any Request.closes then none
  else some (initial ++ requests.filterMap Request.written?)

theorem foldl_remember_none (requests : List Request) : requests.foldl remember none = none := by
  induction requests with
  | nil => rfl
  | cons request rest inductionHypothesis =>
    rw [List.foldl_cons, remember, Option.map_none, ite_self, inductionHypothesis]

theorem foldl_remember (initial : List Definition) (requests : List Request) :
    requests.foldl remember (some initial) = memoryAfter initial requests := by
  induction requests generalizing initial with
  | nil => exact congrArg some (List.append_nil initial).symm
  | cons request rest inductionHypothesis =>
    rw [List.foldl_cons, remember, memoryAfter, List.any_cons]
    cases request.closes with
    | true => exact foldl_remember_none rest
    | false =>
      rw [if_neg Bool.false_ne_true, Option.map_some, inductionHypothesis, memoryAfter,
        Bool.false_or, List.append_assoc]
      cases written : request.written? with
      | none => rw [List.filterMap_cons_none written]; rfl
      | some definition => rw [List.filterMap_cons_some written]; rfl

/-- Storing a word has no influence on what is answered about other words. -/
theorem search_store {dictionary : Dictionary} {name other : String} (body : List Token)
    (different : other ≠ name) :
    (dictionary.perform (.store name body)).2.search other = dictionary.search other ∧
      (dictionary.perform (.store name body)).2.contains other = dictionary.contains other := by
  obtain ⟨_ | vocabulary⟩ := dictionary
  · exact ⟨rfl, rfl⟩
  · have same : (vocabulary.insert name body).find? other = vocabulary.find? other := by
      rw [Vocabulary.find?_insert, if_neg different.symm]
    exact ⟨congrArg Except.ok same, congrArg Except.ok (congrArg Option.isSome same)⟩

theorem Remembers.isClosed {dictionary : Dictionary} {memory : Option (List Definition)}
    (remembers : dictionary.Remembers memory) : dictionary.isClosed = memory.isNone := by
  obtain ⟨contents⟩ := dictionary
  cases remembers <;> rfl

/-- Whatever a dictionary begins with and is asked, one request after the other, each answer is what is
told of all that was written until then: the initial definitions and those that were stored, or nothing
any more once the dictionary was closed. Storing a word has no influence on what is answered about
other words. The dictionary is closed if and only if some request has closed it, and the error by which
it then refuses what needs definitions is one of a running program. -/
theorem performAll_told (initial : List Definition) (earlier later : List Request)
    (request : Request) :
    let run (requests : List Request) := performAll perform (ofList initial) requests
    (∃ answer, (run (earlier ++ request :: later)).1[earlier.length]? = some answer ∧
      Told (memoryAfter initial earlier) request answer) ∧
    (∀ name body other, other ≠ name →
      (run (earlier ++ [.store name body])).2.search other = (run earlier).2.search other ∧
      (run (earlier ++ [.store name body])).2.contains other = (run earlier).2.contains other) ∧
    (run earlier).2.isClosed = earlier.any Request.closes ∧
    RuntimeError.dictionaryClosed.diagnostic = ⟨.runtime, "The dictionary is closed.", none⟩ := by
  intro run
  have remembers : (run earlier).2.Remembers (memoryAfter initial earlier) := by
    rw [← foldl_remember]
    exact (remembers_ofList initial).performAll earlier
  refine ⟨⟨_, getElem?_performAll perform _ earlier later request, (remembers.told request).1⟩,
    fun name body other different => ?_, ?_, rfl⟩
  · have stored : (run (earlier ++ [.store name body])).2 =
        ((run earlier).2.perform (.store name body)).2 :=
      performAll_concat_snd perform _ earlier (.store name body)
    rw [stored]
    exact search_store body different
  · rw [remembers.isClosed, memoryAfter]
    cases earlier.any Request.closes <;> rfl

end Dictionary

end Forth
