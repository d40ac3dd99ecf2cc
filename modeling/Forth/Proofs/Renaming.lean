/-
This file gives words other names, or none. A naming says for each name which one
takes its place, and it never gives one name to two words. A word may also have no
new name, and then everything that defines it or refers to it is left out. In
programs, bodies and dictionaries the names are changed at every level of nesting.

The main statement is that an evaluation knows nothing of names but which of them
are equal. The renamed tokens in the renamed dictionary are evaluated like the
original ones, and what comes of them is the original outcome with its names
changed. For this every word that is referred to has to have a new name. And if the
dictionary was closed, then no definition may be left out that would have failed.
-/

import Forth.Proofs.ControlFlow
import Forth.Proofs.Occurrence
import Mathlib.Data.List.Sort
import Mathlib.Data.String.Basic

namespace Forth

/-! ### Renamings of tokens -/

/-- New names for words. No two words get the same one, and a word that gets none is left out. -/
structure Naming where
  newName? : String → Option String
  distinct : ∀ first second name, newName? first = some name → newName? second = some name →
    first = second

mutual

/-- A token with the new names, at every nesting, unless it is about a word that is left out. -/
def Token.renamed? (naming : Naming) : Token → Option Token
  | .operation opcode arguments => some (.operation opcode arguments)
  | .store name body =>
    (naming.newName? name).map fun new => .store new (renamedTokens naming body)
  | .search name => (naming.newName? name).map .search

/-- Tokens with the new names, without those about words that are left out. -/
def renamedTokens (naming : Naming) : List Token → List Token
  | [] => []
  | token :: rest => (token.renamed? naming).toList ++ renamedTokens naming rest

end

variable {naming : Naming}

theorem renamedTokens_operation (opcode : Opcode) (arguments : List Number) (rest : List Token) :
    renamedTokens naming (.operation opcode arguments :: rest) =
      .operation opcode arguments :: renamedTokens naming rest := by
  simp [renamedTokens, Token.renamed?]

theorem renamedTokens_store {name new : String} (named : naming.newName? name = some new)
    (body rest : List Token) :
    renamedTokens naming (.store name body :: rest) =
      .store new (renamedTokens naming body) :: renamedTokens naming rest := by
  simp [renamedTokens, Token.renamed?, named]

theorem renamedTokens_store_of_none {name : String} (leftOut : naming.newName? name = none)
    (body rest : List Token) :
    renamedTokens naming (.store name body :: rest) = renamedTokens naming rest := by
  simp [renamedTokens, Token.renamed?, leftOut]

theorem renamedTokens_search {name new : String} (named : naming.newName? name = some new)
    (rest : List Token) :
    renamedTokens naming (.search name :: rest) = .search new :: renamedTokens naming rest := by
  simp [renamedTokens, Token.renamed?, named]

/-- Whether every word that tokens refer to, at any nesting, has a new name. -/
def Naming.Covers (naming : Naming) (tokens : List Token) : Prop :=
  ∀ name, (Token.search name).OccursIn tokens → ∃ new, naming.newName? name = some new

theorem Naming.Covers.of_cons {token : Token} {rest : List Token}
    (covers : naming.Covers (token :: rest)) : naming.Covers rest :=
  fun name occurs => covers name (occurs.cons token)

theorem Naming.Covers.body_of_cons {name : String} {body rest : List Token}
    (covers : naming.Covers (.store name body :: rest)) : naming.Covers body :=
  fun name occurs => covers name (occurs.cons_store rest)

theorem Naming.Covers.exists_newName {name : String} {rest : List Token}
    (covers : naming.Covers (.search name :: rest)) :
    ∃ new, naming.newName? name = some new :=
  covers name (.here _ List.mem_cons_self)

/-! ### Renamings of dictionaries -/

/-- The words that are defined in a list, with the new names, without those that are left out. -/
def renamedDefinitions (naming : Naming) : List Definition → Vocabulary
  | [] => .empty
  | definition :: rest =>
    match naming.newName? definition.name with
    | some name =>
      (renamedDefinitions naming rest).insert name (renamedTokens naming definition.body)
    | none => renamedDefinitions naming rest

/-- A vocabulary with the new names, without the words that are left out. -/
def Vocabulary.renamed (naming : Naming) (vocabulary : Vocabulary) : Vocabulary :=
  renamedDefinitions naming vocabulary.definitions

theorem find?_renamedDefinitions {name new : String} (named : naming.newName? name = some new)
    (definitions : List Definition) :
    (renamedDefinitions naming definitions).find? new =
      (definitions.find? (·.name == name)).map fun definition =>
        renamedTokens naming definition.body := by
  induction definitions with
  | nil => rfl
  | cons first rest inductionHypothesis =>
    rw [renamedDefinitions, Definition.find?_cons]
    by_cases here : first.name = name
    · simp only [here, named]
      rw [Vocabulary.find?_insert, if_pos rfl]
      rfl
    · rw [if_neg here]
      split
      next other firstNamed =>
        have different : other ≠ new := by
          rintro rfl
          exact here (naming.distinct _ _ _ firstNamed named)
        rw [Vocabulary.find?_insert, if_neg different, inductionHypothesis]
      next => exact inductionHypothesis

theorem find?_renamedDefinitions_of_fresh {new : String}
    (fresh : ∀ name, naming.newName? name ≠ some new) (definitions : List Definition) :
    (renamedDefinitions naming definitions).find? new = none := by
  induction definitions with
  | nil => rfl
  | cons first rest inductionHypothesis =>
    rw [renamedDefinitions]
    split
    next other firstNamed =>
      have different : other ≠ new := by
        rintro rfl
        exact fresh _ firstNamed
      rw [Vocabulary.find?_insert, if_neg different, inductionHypothesis]
    next => exact inductionHypothesis

namespace Vocabulary

variable {name new : String}

/-- A word is found under its new name. -/
theorem find?_renamed (named : naming.newName? name = some new) (vocabulary : Vocabulary) :
    (vocabulary.renamed naming).find? new =
      (vocabulary.find? name).map (renamedTokens naming) := by
  rw [renamed, find?_renamedDefinitions named, find?, Option.map_map]
  rfl

theorem find?_renamed_of_fresh (fresh : ∀ name, naming.newName? name ≠ some new)
    (vocabulary : Vocabulary) : (vocabulary.renamed naming).find? new = none :=
  find?_renamedDefinitions_of_fresh fresh _

/-- Only what is found under names that are taken by words has to be compared with a renamed
vocabulary. -/
theorem renamed_eq_of_find? {vocabulary other : Vocabulary}
    (same : ∀ name new, naming.newName? name = some new →
      other.find? new = (vocabulary.find? name).map (renamedTokens naming))
    (others : ∀ new, (∀ name, naming.newName? name ≠ some new) → other.find? new = none) :
    vocabulary.renamed naming = other := by
  refine ext_find? fun new => ?_
  by_cases taken : ∃ name, naming.newName? name = some new
  · obtain ⟨name, named⟩ := taken
    rw [find?_renamed named, same name new named]
  · have fresh : ∀ name, naming.newName? name ≠ some new := fun name named => taken ⟨name, named⟩
    rw [find?_renamed_of_fresh fresh, others new fresh]

theorem renamed_insert (named : naming.newName? name = some new) (vocabulary : Vocabulary)
    (body : List Token) :
    (vocabulary.insert name body).renamed naming =
      (vocabulary.renamed naming).insert new (renamedTokens naming body) := by
  refine renamed_eq_of_find? (fun other otherNew otherNamed => ?_) fun otherNew fresh => ?_
  · have sameName : new = otherNew ↔ name = other := by
      refine ⟨fun same => naming.distinct _ _ _ (same ▸ named) otherNamed, ?_⟩
      rintro rfl
      exact Option.some.inj (named.symm.trans otherNamed)
    rw [find?_insert, find?_insert, find?_renamed otherNamed, apply_ite (Option.map _)]
    simp only [sameName, Option.map_some]
  · have different : new ≠ otherNew := by
      rintro rfl
      exact fresh name named
    rw [find?_insert, if_neg different, find?_renamed_of_fresh fresh]

theorem renamed_insert_of_none (leftOut : naming.newName? name = none) (vocabulary : Vocabulary)
    (body : List Token) :
    (vocabulary.insert name body).renamed naming = vocabulary.renamed naming := by
  refine renamed_eq_of_find? (fun other new named => ?_) fun new fresh => ?_
  · have different : name ≠ other := by
      rintro rfl
      rw [leftOut] at named
      cases named
    rw [find?_renamed named, find?_insert, if_neg different]
  · exact find?_renamed_of_fresh fresh vocabulary

/-- The new names of the words that are not left out, in order. -/
theorem names_renamed (vocabulary : Vocabulary) :
    (vocabulary.renamed naming).names =
      (vocabulary.names.filterMap naming.newName?).mergeSort := by
  have members (new : String) : new ∈ (vocabulary.renamed naming).names ↔
      new ∈ vocabulary.names.filterMap naming.newName? := by
    rw [mem_names_iff, List.mem_filterMap]
    constructor
    · rintro ⟨body, found⟩
      by_cases taken : ∃ name, naming.newName? name = some new
      · obtain ⟨name, named⟩ := taken
        rw [find?_renamed named] at found
        obtain ⟨original, defined, -⟩ := Option.map_eq_some_iff.1 found
        exact ⟨name, mem_names_iff.2 ⟨original, defined⟩, named⟩
      · rw [find?_renamed_of_fresh fun name named => taken ⟨name, named⟩] at found
        cases found
    · rintro ⟨name, member, named⟩
      obtain ⟨body, defined⟩ := mem_names_iff.1 member
      exact ⟨renamedTokens naming body, by rw [find?_renamed named, defined, Option.map_some]⟩
  have noDuplicates : (vocabulary.names.filterMap naming.newName?).Nodup :=
    vocabulary.nodup_names.filterMap fun first second name firstNamed secondNamed =>
      naming.distinct first second name (Option.mem_def.1 firstNamed)
        (Option.mem_def.1 secondNamed)
  have permuted := (List.perm_ext_iff_of_nodup (vocabulary.renamed naming).nodup_names
    noDuplicates).2 members
  exact (permuted.trans (List.mergeSort_perm _ _).symm).eq_of_pairwise
    (fun _ _ _ _ => String.le_antisymm)
    ((vocabulary.renamed naming).pairwise_names.imp le_of_lt)
    (List.pairwise_mergeSort' (· ≤ ·) _)

end Vocabulary

namespace Dictionary

/-- A dictionary with the new names, without the words that are left out. -/
def renamed (naming : Naming) (dictionary : Dictionary) : Dictionary :=
  ⟨dictionary.contents?.map (Vocabulary.renamed naming)⟩

variable {dictionary next : Dictionary} {name new : String}

theorem search_renamed (named : naming.newName? name = some new) (dictionary : Dictionary) :
    (dictionary.renamed naming).search new =
      (dictionary.search name).map (Option.map (renamedTokens naming)) := by
  obtain ⟨_ | vocabulary⟩ := dictionary
  · rfl
  · exact congrArg Except.ok (Vocabulary.find?_renamed named vocabulary)

theorem store_renamed (named : naming.newName? name = some new) (dictionary : Dictionary)
    (body : List Token) :
    (dictionary.renamed naming).store new (renamedTokens naming body) =
      (dictionary.store name body).map (renamed naming) := by
  obtain ⟨_ | vocabulary⟩ := dictionary
  · rfl
  · exact congrArg (fun vocabulary => Except.ok (Dictionary.mk (some vocabulary)))
      (Vocabulary.renamed_insert named vocabulary body).symm

theorem renamed_of_store (leftOut : naming.newName? name = none) {body : List Token}
    (stored : dictionary.store name body = .ok next) :
    next.renamed naming = dictionary.renamed naming := by
  obtain ⟨_ | vocabulary⟩ := dictionary
  · cases stored
  · cases stored
    exact congrArg (fun vocabulary => Dictionary.mk (some vocabulary))
      (Vocabulary.renamed_insert_of_none leftOut vocabulary body)

end Dictionary

/-! ### Renamings of outcomes -/

/-- An error with the new name of the word that it is about. -/
def RuntimeError.renamed (naming : Naming) : RuntimeError → RuntimeError
  | .unknownWord name => .unknownWord ((naming.newName? name).getD name)
  | .nestingTooDeep name => .nestingTooDeep ((naming.newName? name).getD name)
  | error => error

/-- A fault with the new name of the word that it is about. -/
def Fault.renamed (naming : Naming) : Fault → Fault
  | .halt error => .halt (error.renamed naming)
  | .misuse cause => .misuse cause

/-- Why an operation fails has nothing to do with words. -/
theorem Fault.renamed_of_execute {stack : Stack} {opcode : Opcode} {arguments : List Number}
    {fault : Fault} (failed : stack.execute opcode arguments = .error fault) :
    fault.renamed naming = fault := by
  have shape := stack.execute_shape opcode arguments
  rw [failed] at shape
  obtain ⟨error, rfl | rfl, same⟩ | foreseen := shape
  · cases same
    rfl
  · cases same
    rfl
  · unfold Opcode.foresee at foreseen
    split at foreseen
    next =>
      cases foreseen
      rfl
    next =>
      split at foreseen
      next =>
        cases foreseen
        split <;> rfl
      next =>
        split at foreseen <;> cases foreseen
        rfl

/-- A workspace with the new names. -/
def Workspace.renamed (naming : Naming) (workspace : Workspace) : Workspace where
  stack := workspace.stack
  dictionary := workspace.dictionary.renamed naming
  printed := workspace.printed
  defined := workspace.defined.filterMap naming.newName?

@[simp]
theorem Workspace.stack_renamed (workspace : Workspace) :
    (workspace.renamed naming).stack = workspace.stack :=
  rfl

@[simp]
theorem Workspace.dictionary_renamed (workspace : Workspace) :
    (workspace.renamed naming).dictionary = workspace.dictionary.renamed naming :=
  rfl

@[simp]
theorem Workspace.outputs_renamed (workspace : Workspace) :
    (workspace.renamed naming).outputs = workspace.outputs :=
  rfl

/-- The end of a run with the new names. -/
def RunEnd.renamed (naming : Naming) (final : RunEnd) : RunEnd :=
  ⟨final.workspace.renamed naming, final.fault.map (Fault.renamed naming)⟩

/-! ### Evaluations with other names -/

/-- Whether tokens can be evaluated with the new names in a workspace. Every word that is referred to,
in the tokens or in the dictionary, has to have one. In a dictionary that was closed a definition
fails, so none that stands directly among the tokens may be left out. -/
structure Naming.Suits (naming : Naming) (workspace : Workspace) (tokens : List Token) : Prop where
  covers : naming.Covers tokens
  covered : ∀ definition ∈ workspace.dictionary.definitions, naming.Covers definition.body
  kept : workspace.dictionary.isClosed = true → ∀ name body, .store name body ∈ tokens →
    naming.newName? name ≠ none

/-- An evaluation never closes a dictionary. -/
theorem isClosed_of_evaluate (limit depth : Int) {workspace : Workspace} {tokens : List Token}
    (isOpen : workspace.dictionary.isClosed = false) :
    (evaluate limit depth workspace tokens).workspace.dictionary.isClosed = false := by
  fun_induction evaluate limit depth workspace tokens with
  | case1 | case2 | case4 | case6 | case7 | case8 => exact isOpen
  | case3 depth workspace opcode arguments rest text stack executed restHypothesis =>
    exact restHypothesis isOpen
  | case5 depth workspace name body rest dictionary stored restHypothesis =>
    exact restHypothesis (Dictionary.isClosed_of_store stored)
  | case9 depth workspace name rest body found allowed next finished bodyHypothesis
      restHypothesis =>
    have left := bodyHypothesis isOpen
    rw [finished] at left
    exact restHypothesis left
  | case10 depth workspace name rest body found allowed unfinished bodyHypothesis =>
    exact bodyHypothesis isOpen

/-- Whatever is evaluated, the new names are enough for what is defined then. -/
theorem Naming.covered_evaluate (limit depth : Int) {workspace : Workspace} {tokens : List Token}
    (covered : ∀ definition ∈ workspace.dictionary.definitions, naming.Covers definition.body)
    (covers : naming.Covers tokens) :
    ∀ definition ∈ (evaluate limit depth workspace tokens).workspace.dictionary.definitions,
      naming.Covers definition.body := by
  fun_induction evaluate limit depth workspace tokens with
  | case1 | case2 | case4 | case6 | case7 | case8 => exact covered
  | case3 depth workspace opcode arguments rest text stack executed restHypothesis =>
    exact restHypothesis covered covers.of_cons
  | case5 depth workspace name body rest dictionary stored restHypothesis =>
    refine restHypothesis (fun definition member => ?_) covers.of_cons
    obtain rfl | old := Dictionary.mem_definitions_of_store stored member
    · exact covers.body_of_cons
    · exact covered definition old
  | case9 depth workspace name rest body found allowed next finished bodyHypothesis
      restHypothesis =>
    have left := bodyHypothesis covered (covered _ (Dictionary.mem_definitions_of_search found))
    rw [finished] at left
    exact restHypothesis left covers.of_cons
  | case10 depth workspace name rest body found allowed unfinished bodyHypothesis =>
    exact bodyHypothesis covered (covered _ (Dictionary.mem_definitions_of_search found))

namespace Naming.Suits

variable {workspace : Workspace} {name : String} {body rest : List Token}

theorem afterOperation {opcode : Opcode} {arguments : List Number}
    (suits : naming.Suits workspace (.operation opcode arguments :: rest)) (text : String)
    (stack : Stack) : naming.Suits (workspace.afterOperation text stack) rest where
  covers := suits.covers.of_cons
  covered := suits.covered
  kept closed name body member := suits.kept closed name body (List.mem_cons_of_mem _ member)

theorem afterDefinition {dictionary : Dictionary}
    (suits : naming.Suits workspace (.store name body :: rest))
    (stored : workspace.dictionary.store name body = .ok dictionary) :
    naming.Suits (workspace.afterDefinition name dictionary) rest where
  covers := suits.covers.of_cons
  covered definition member := by
    obtain rfl | old := Dictionary.mem_definitions_of_store stored member
    · exact suits.covers.body_of_cons
    · exact suits.covered definition old
  kept closed := by
    rw [Workspace.afterDefinition, Dictionary.isClosed_of_store stored] at closed
    cases closed

/-- Where a word is found, the new names suit its body. -/
theorem body_of_search (suits : naming.Suits workspace (.search name :: rest))
    (found : workspace.dictionary.search name = .ok (some body)) :
    naming.Suits workspace body where
  covers := suits.covered _ (Dictionary.mem_definitions_of_search found)
  covered := suits.covered
  kept closed := by
    rw [Dictionary.isClosed_of_search found] at closed
    cases closed

/-- When the body of a word has come to its end, the new names suit what stands behind its call. -/
theorem afterCall {limit depth : Int} {next : Workspace}
    (suits : naming.Suits workspace (.search name :: rest))
    (found : workspace.dictionary.search name = .ok (some body))
    (finished : evaluate limit depth workspace body = ⟨next, none⟩) :
    naming.Suits next rest where
  covers := suits.covers.of_cons
  covered := by
    have covered := covered_evaluate limit depth suits.covered (suits.body_of_search found).covers
    rwa [finished] at covered
  kept closed := by
    have isOpen : (evaluate limit depth workspace body).workspace.dictionary.isClosed = false :=
      isClosed_of_evaluate limit depth (Dictionary.isClosed_of_search found)
    rw [finished] at isOpen
    rw [isOpen] at closed
    cases closed

end Naming.Suits

namespace Workspace

variable {workspace : Workspace} {name new : String} {dictionary : Dictionary}

theorem renamed_afterDefinition (named : naming.newName? name = some new)
    (workspace : Workspace) (dictionary : Dictionary) :
    (workspace.afterDefinition name dictionary).renamed naming =
      (workspace.renamed naming).afterDefinition new (dictionary.renamed naming) := by
  simp only [renamed, afterDefinition, List.filterMap_cons, named]

theorem renamed_afterDefinition_of_none {body : List Token}
    (leftOut : naming.newName? name = none)
    (stored : workspace.dictionary.store name body = .ok dictionary) :
    (workspace.afterDefinition name dictionary).renamed naming = workspace.renamed naming := by
  simp only [renamed, afterDefinition, List.filterMap_cons, leftOut,
    Dictionary.renamed_of_store leftOut stored]

end Workspace

/-- An evaluation of renamed tokens in a renamed workspace ends as the original one does, with the
new names. -/
theorem evaluate_renamed (limit depth : Int) {workspace : Workspace} {tokens : List Token}
    (suits : naming.Suits workspace tokens) :
    evaluate limit depth (workspace.renamed naming) (renamedTokens naming tokens) =
      (evaluate limit depth workspace tokens).renamed naming := by
  fun_induction evaluate limit depth workspace tokens with
  | case1 depth workspace =>
    rw [renamedTokens, evaluate]
    rfl
  | case2 depth workspace opcode arguments rest fault failed =>
    rw [renamedTokens_operation, evaluate]
    simp only [Workspace.stack_renamed, failed, RunEnd.renamed, Option.map_some,
      Fault.renamed_of_execute failed]
  | case3 depth workspace opcode arguments rest text stack executed restHypothesis =>
    rw [renamedTokens_operation, evaluate]
    simp only [Workspace.stack_renamed, executed]
    exact restHypothesis (suits.afterOperation text stack)
  | case4 depth workspace name body rest error failed =>
    obtain ⟨closed, rfl⟩ := Dictionary.isClosed_of_withVocabulary failed
    obtain ⟨new, named⟩ :=
      Option.ne_none_iff_exists'.1 (suits.kept closed name body List.mem_cons_self)
    rw [renamedTokens_store named, evaluate]
    simp only [Workspace.dictionary_renamed, Dictionary.store_renamed named, failed]
    rfl
  | case5 depth workspace name body rest dictionary stored restHypothesis =>
    have restSame := restHypothesis (suits.afterDefinition stored)
    cases named : naming.newName? name with
    | none =>
      rw [renamedTokens_store_of_none named, ← restSame,
        Workspace.renamed_afterDefinition_of_none named stored]
    | some new =>
      rw [Workspace.renamed_afterDefinition named] at restSame
      rw [renamedTokens_store named, evaluate]
      simp only [Workspace.dictionary_renamed, Dictionary.store_renamed named, stored]
      exact restSame
  | case6 depth workspace name rest error searched =>
    obtain ⟨new, named⟩ := suits.covers.exists_newName
    obtain ⟨-, rfl⟩ := Dictionary.isClosed_of_withVocabulary searched
    rw [renamedTokens_search named, evaluate]
    simp only [Workspace.dictionary_renamed, Dictionary.search_renamed named, searched]
    rfl
  | case7 depth workspace name rest searched =>
    obtain ⟨new, named⟩ := suits.covers.exists_newName
    rw [renamedTokens_search named, evaluate]
    simp only [Workspace.dictionary_renamed, Dictionary.search_renamed named, searched,
      RunEnd.renamed, Option.map_some, Fault.renamed, RuntimeError.renamed, named]
    rfl
  | case8 depth workspace name rest body searched tooDeep =>
    obtain ⟨new, named⟩ := suits.covers.exists_newName
    rw [renamedTokens_search named, evaluate]
    simp only [Workspace.dictionary_renamed, Dictionary.search_renamed named, searched, Except.map,
      Option.map_some, if_pos tooDeep, RunEnd.renamed, Fault.renamed, RuntimeError.renamed, named]
    rfl
  | case9 depth workspace name rest body searched allowed next finished bodyHypothesis
      restHypothesis =>
    obtain ⟨new, named⟩ := suits.covers.exists_newName
    have bodySame := bodyHypothesis (suits.body_of_search searched)
    rw [finished] at bodySame
    rw [renamedTokens_search named, evaluate]
    simp only [Workspace.dictionary_renamed, Dictionary.search_renamed named, searched, Except.map,
      Option.map_some, if_neg allowed, bodySame]
    exact restHypothesis (suits.afterCall searched finished)
  | case10 depth workspace name rest body searched allowed unfinished bodyHypothesis =>
    obtain ⟨new, named⟩ := suits.covers.exists_newName
    have bodySame := bodyHypothesis (suits.body_of_search searched)
    rw [renamedTokens_search named, evaluate]
    simp only [Workspace.dictionary_renamed, Dictionary.search_renamed named, searched, Except.map,
      Option.map_some, if_neg allowed, bodySame]
    generalize evaluate limit (depth + 1) workspace body = final at unfinished
    obtain ⟨next, fault⟩ := final
    cases fault with
    | none => exact absurd rfl (unfinished next)
    | some fault => rfl

/-- An evaluator that runs renamed tokens with a renamed dictionary becomes what it would have become
with the original ones, with the new names. It answers if it would have answered. -/
theorem Evaluator.run_fresh_renamed (limit : Int) {stack : Stack} {dictionary : Dictionary}
    {tokens : List Token} (suits : naming.Suits (.fresh stack dictionary) tokens) :
    let plain := (fresh stack dictionary limit).run tokens
    let other := (fresh stack (dictionary.renamed naming) limit).run (renamedTokens naming tokens)
    other.1.workspace = plain.1.workspace.renamed naming ∧
      other.1.error = plain.1.error.map (RuntimeError.renamed naming) ∧
      ∃ misuse, plain.2 = plain.1.answer misuse ∧ other.2 = other.1.answer misuse := by
  have same : (Machine.start (renamedTokens naming tokens)
      (.fresh stack (dictionary.renamed naming))).run limit =
        ((Machine.start tokens (.fresh stack dictionary)).run limit).renamed naming := by
    rw [run_start, run_start]
    exact evaluate_renamed limit 1 suits
  rw [run_fresh, run_fresh, same]
  generalize (Machine.start tokens (.fresh stack dictionary)).run limit = final
  obtain ⟨workspace, fault⟩ := final
  match fault with
  | none => exact ⟨rfl, rfl, none, rfl, rfl⟩
  | some (.halt error) => exact ⟨rfl, rfl, none, rfl, rfl⟩
  | some (.misuse cause) => exact ⟨rfl, rfl, some cause, rfl, rfl⟩

end Forth
