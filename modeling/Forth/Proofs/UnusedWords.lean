/-
This file says that the definitions of words that nothing refers to do nothing. If
they are all left out, in a program, in the bodies of its definitions and in the
dictionary, then the program prints the same texts, leaves the same stack and is
halted by the same error. Only the left out words are missing from its dictionary.

A closed dictionary is an exception, because there the attempt to define a word
halts a program whether the word is used or not.

The words for operations are such words, since a program that was read never refers
to them: where their names stand in it, they are operations.
-/

import Forth.Proofs.Renaming
import Forth.Proofs.Safety

namespace Forth

/-- The naming that leaves words out and lets all others keep their names. -/
def Naming.omitting (leftOut : String → Bool) : Naming where
  newName? := Option.guard fun name => !leftOut name
  distinct _ _ _ firstNamed secondNamed :=
    (Option.guard_eq_some_iff.1 firstNamed).1.trans (Option.guard_eq_some_iff.1 secondNamed).1.symm

section

variable {leftOut : String → Bool}

/-! ### What is left out -/

namespace Naming

theorem omitting_eq_some_iff {name new : String} :
    (omitting leftOut).newName? name = some new ↔ name = new ∧ leftOut name = false := by
  rw [omitting, Option.guard_eq_some_iff, Bool.not_eq_true']

theorem omitting_of_kept {name : String} (kept : leftOut name = false) :
    (omitting leftOut).newName? name = some name :=
  omitting_eq_some_iff.2 ⟨rfl, kept⟩

theorem omitting_ne_some {new : String} (missing : leftOut new = true) (name : String) :
    (omitting leftOut).newName? name ≠ some new := by
  intro named
  obtain ⟨rfl, kept⟩ := omitting_eq_some_iff.1 named
  rw [missing] at kept
  cases kept

/-- If nothing refers to the words that are left out, then all others can be run without them. -/
theorem suits_omitting {workspace : Workspace} {tokens : List Token}
    (unused : ∀ name, leftOut name = true →
      ¬ (Token.search name).WrittenIn tokens workspace.dictionary)
    (kept : workspace.dictionary.isClosed = true → ∀ name body, .store name body ∈ tokens →
      leftOut name = false) :
    (omitting leftOut).Suits workspace tokens where
  covers name occurs :=
    ⟨name, omitting_of_kept (Bool.eq_false_iff.2 fun missing =>
      unused name missing (.inl occurs))⟩
  covered definition present name occurs :=
    ⟨name, omitting_of_kept (Bool.eq_false_iff.2 fun missing =>
      unused name missing (.inr ⟨definition, present, occurs⟩))⟩
  kept closed name body member := by
    rw [omitting_of_kept (kept closed name body member)]
    exact Option.some_ne_none name

end Naming

namespace Dictionary

/-- A word that is left out is not defined, and any other one has its body, without the definitions
that are left out. -/
theorem search_omitting (dictionary : Dictionary) (name : String) :
    (dictionary.renamed (.omitting leftOut)).search name =
      (dictionary.search name).map fun body? =>
        if leftOut name then none else body?.map (renamedTokens (.omitting leftOut)) := by
  cases missing : leftOut name with
  | false => exact search_renamed (Naming.omitting_of_kept missing) dictionary
  | true =>
    obtain ⟨_ | vocabulary⟩ := dictionary
    · rfl
    · exact congrArg Except.ok
        (Vocabulary.find?_renamed_of_fresh (Naming.omitting_ne_some missing) vocabulary)

theorem names_omitting (dictionary : Dictionary) :
    (dictionary.renamed (.omitting leftOut)).names =
      dictionary.names.map (List.filter fun name => !leftOut name) := by
  obtain ⟨_ | vocabulary⟩ := dictionary
  · rfl
  · refine congrArg Except.ok ((Vocabulary.names_renamed vocabulary).trans ?_)
    rw [Naming.omitting, List.filterMap_eq_filter]
    exact List.mergeSort_eq_self _ ((vocabulary.pairwise_names.imp le_of_lt).filter _)

end Dictionary

/-- An error keeps the name that it is about. -/
theorem RuntimeError.renamed_omitting (error : RuntimeError) :
    error.renamed (.omitting leftOut) = error := by
  have same (name : String) : ((Naming.omitting leftOut).newName? name).getD name = name := by
    cases missing : leftOut name <;> simp [Naming.omitting, Option.guard, missing]
  cases error <;> simp only [renamed, same]

/-! ### Runs without unused words -/

/-- What can be told of a run with all definitions and of a run without those that are left out. They
print the same, leave the same stack, are halted by the same error and answer the same, or are broken
off by the same misuse. The dictionary has the same words, apart from the ones that are left out. -/
structure Evaluator.AgreesWithout (leftOut : String → Bool)
    (whole reduced : Evaluator × Except Misuse String) : Prop where
  outputs : reduced.1.workspace.outputs = whole.1.workspace.outputs
  stack : reduced.1.workspace.stack = whole.1.workspace.stack
  error : reduced.1.error = whole.1.error
  answer : reduced.2 = whole.2
  dictionary : reduced.1.workspace.dictionary =
    whole.1.workspace.dictionary.renamed (.omitting leftOut)
  search : ∀ name, reduced.1.workspace.dictionary.search name =
    (whole.1.workspace.dictionary.search name).map fun body? =>
      if leftOut name then none else body?.map (renamedTokens (.omitting leftOut))
  names : reduced.1.workspace.dictionary.names =
    whole.1.workspace.dictionary.names.map (List.filter fun name => !leftOut name)

theorem Evaluator.agreesWithout_of_suits (limit : Int) {stack : Stack} {dictionary : Dictionary}
    {tokens : List Token}
    (suits : (Naming.omitting leftOut).Suits (.fresh stack dictionary) tokens) :
    AgreesWithout leftOut ((fresh stack dictionary limit).run tokens)
      ((fresh stack (dictionary.renamed (.omitting leftOut)) limit).run
        (renamedTokens (.omitting leftOut) tokens)) := by
  obtain ⟨workspace, error, misuse, wholeAnswer, reducedAnswer⟩ := run_fresh_renamed limit suits
  have keeps : RuntimeError.renamed (.omitting leftOut) = id :=
    funext RuntimeError.renamed_omitting
  rw [keeps, Option.map_id_fun, id] at error
  refine ⟨(congrArg Workspace.outputs workspace).trans (Workspace.outputs_renamed _),
    (congrArg Workspace.stack workspace).trans (Workspace.stack_renamed _), error, ?_,
    congrArg Workspace.dictionary workspace, fun name => ?_, ?_⟩
  · rw [wholeAnswer, reducedAnswer]
    cases misuse with
    | none => simp only [answer, output, error, workspace, Workspace.outputs_renamed]
    | some misuse => rfl
  · rw [workspace]
    exact Dictionary.search_omitting _ name
  · rw [workspace]
    exact Dictionary.names_omitting _

end

/-! ### Definitions under the names of operations -/

/-- Whether a name stands for an operation, so that no program can refer to a word of that name. -/
def Grammar.isBuiltIn (name : String) : Bool :=
  (operation? name).isSome

/-- Nothing that occurs in a program that was read refers to a word under the name of an operation. -/
theorem operation?_of_occursIn {tokens : List Token} {name : String}
    (wellFormed : ∀ token ∈ tokens, token.WellFormed)
    (occurs : (Token.search name).OccursIn tokens) : Grammar.operation? name = none := by
  cases occurs.of_hereditary hereditary_wellFormed wellFormed with
  | search _ _ free => exact free

/-- No reference to a word under the name of an operation is written where all tokens can be written in
a program. -/
theorem not_writtenIn_of_isBuiltIn {tokens : List Token} {dictionary : Dictionary} {name : String}
    (wellFormed : ∀ token ∈ tokens, token.WellFormed)
    (members : ∀ definition ∈ dictionary.definitions, ∀ token ∈ definition.body, token.WellFormed)
    (builtIn : Grammar.isBuiltIn name = true) :
    ¬ (Token.search name).WrittenIn tokens dictionary := by
  intro written
  have free : Grammar.operation? name = none := by
    obtain occurs | ⟨definition, present, occurs⟩ := written
    · exact operation?_of_occursIn wellFormed occurs
    · exact operation?_of_occursIn (members definition present) occurs
  rw [Grammar.isBuiltIn, free] at builtIn
  cases builtIn

/-- Definitions of words that nothing refers to do nothing. Whichever words are left out, if no
reference to them is written in the program or in the dictionary, then without any definition of them
the run is the same, except that these words are missing from its dictionary. If the dictionary was
closed, then no definition may be left out that stands directly in the program, because each one fails
there. In a program that was read there are no references to words under the names of operations, so
in runs of such programs on a dictionary of their words these definitions do nothing. -/
theorem Evaluator.run_agreesWithout :
    (∀ (leftOut : String → Bool) (limit : Int) (stack : Stack) (dictionary : Dictionary)
        (tokens : List Token),
      (∀ name, leftOut name = true → ¬ (Token.search name).WrittenIn tokens dictionary) →
      (dictionary.isClosed = true → ∀ name body, .store name body ∈ tokens →
        leftOut name = false) →
      AgreesWithout leftOut ((fresh stack dictionary limit).run tokens)
        ((fresh stack (dictionary.renamed (.omitting leftOut)) limit).run
          (renamedTokens (.omitting leftOut) tokens))) ∧
    ∀ text tokens, parse text = .ok tokens →
      (∀ name, (Token.search name).OccursIn tokens → Grammar.operation? name = none) ∧
      ∀ (limit : Int) (stack : Stack) (dictionary : Dictionary), dictionary.isClosed = false →
        (∀ definition ∈ dictionary.definitions, ∀ token ∈ definition.body, token.WellFormed) →
        AgreesWithout Grammar.isBuiltIn ((fresh stack dictionary limit).run tokens)
          ((fresh stack (dictionary.renamed (.omitting Grammar.isBuiltIn)) limit).run
            (renamedTokens (.omitting Grammar.isBuiltIn) tokens)) := by
  refine ⟨fun leftOut limit stack dictionary tokens unused kept =>
    agreesWithout_of_suits limit (Naming.suits_omitting unused kept), fun text tokens parsed => ?_⟩
  have wellFormed := Syntax.wellFormed_of_parse parsed
  refine ⟨fun name => operation?_of_occursIn wellFormed,
    fun limit stack dictionary isOpen members => ?_⟩
  exact agreesWithout_of_suits limit (Naming.suits_omitting
    (fun name => not_writtenIn_of_isBuiltIn wellFormed members)
    fun closed => nomatch isOpen.symm.trans closed)

/-- A word that defines another one and prints a number, and a call of it. -/
def defineWithin : List Token :=
  [.store "outer" [.store "inner" [.search "outer"], .push (.int 7), .operation .pop []],
    .search "outer"]

/-- The inner word is defined when the outer one is called, but nothing refers to it. The word with
the name of an operation is defined, and yet its name stands for the operation. -/
theorem Evaluator.run_agreesWithout_defineWithin :
    let leftOut := fun name => name == "inner"
    let duplicate : List Token := [.push (.int 3), .operation .duplicate [], .operation .pop []]
    let run := (fresh .empty .empty defaultLimit).run
    (run (renamedTokens (.omitting leftOut) defineWithin)).1.workspace.outputs = ["7"] ∧
      (run defineWithin).1.workspace.dictionary.names = .ok ["inner", "outer"] ∧
      (run (renamedTokens (.omitting leftOut) defineWithin)).1.workspace.dictionary.names =
        .ok ["outer"] ∧
      parse ": dup 1 ; 3 dup ." = .ok (.store "dup" [.push (.int 1)] :: duplicate) ∧
      AgreesWithout Grammar.isBuiltIn (run (.store "dup" [.push (.int 1)] :: duplicate))
        (run duplicate) := by
  intro leftOut duplicate run
  obtain ⟨words, finished, names⟩ : ∃ words,
      (Machine.start defineWithin (.fresh .empty .empty)).runWithin defaultLimit 20 =
        some ⟨⟨.empty, words, ["7"], ["inner", "outer"]⟩, none⟩ ∧
      words.names = .ok ["inner", "outer"] := ⟨_, rfl, rfl⟩
  have whole : run defineWithin = _ := run_fresh_of_runWithin finished
  have unused (name : String) (missing : leftOut name = true) :
      ¬ (Token.search name).WrittenIn defineWithin .empty := by
    obtain rfl : name = "inner" := eq_of_beq missing
    rintro (occurs | ⟨definition, present, -⟩)
    · simp [defineWithin, Token.occursIn_cons_iff, Token.not_occursIn_nil, Token.push] at occurs
    · cases present
  have agrees : AgreesWithout leftOut (run defineWithin)
      (run (renamedTokens (.omitting leftOut) defineWithin)) :=
    run_agreesWithout.1 leftOut defaultLimit .empty .empty defineWithin unused nofun
  have parsed : parse ": dup 1 ; 3 dup ." = .ok (.store "dup" [.push (.int 1)] :: duplicate) :=
    Syntax.parseWords_words [.definition ⟨"dup", by decide⟩
      (.atom (.number ⟨.absent, [1], by decide, by decide⟩)) [],
      .atom (.number ⟨.absent, [3], by decide, by decide⟩),
      .atom (.operation ⟨"dup", .duplicate, by decide⟩), .atom (.operation ⟨".", .pop, by decide⟩)]
  refine ⟨agrees.outputs.trans (by rw [whole]; rfl), by rw [whole]; exact names,
    agrees.names.trans ?_, parsed, ?_⟩
  · rw [whole, names]
    rfl
  · exact (run_agreesWithout.2 _ _ parsed).2 defaultLimit .empty .empty rfl nofun

/-- The definition of a word that is not used, and then the printing of a number. -/
def defineUnused : List Token :=
  [.store "unused" [.push (.int 7)], .push (.int 1), .operation .pop []]

/-- In a closed dictionary even the definition of a word that is not used halts a run. Without it a
number is printed and nothing halts the run. -/
theorem Evaluator.not_agreesWithout_of_closed :
    let leftOut := fun name => name == "unused"
    let whole := (fresh .empty .closed defaultLimit).run defineUnused
    let reduced := (fresh .empty (Dictionary.closed.renamed (.omitting leftOut)) defaultLimit).run
      (renamedTokens (.omitting leftOut) defineUnused)
    (∀ name, ¬ (Token.search name).WrittenIn defineUnused .closed) ∧
      whole.1.workspace.outputs = [] ∧ whole.1.error = some .dictionaryClosed ∧
      reduced.1.workspace.outputs = ["1"] ∧ reduced.1.error = none ∧
      ¬ AgreesWithout leftOut whole reduced := by
  intro leftOut whole reduced
  have halted : (Machine.start defineUnused (.fresh .empty .closed)).runWithin defaultLimit 10 =
      some ⟨.fresh .empty .closed, some (.halt .dictionaryClosed)⟩ := rfl
  have finished : (Machine.start [.push (.int 1), .operation .pop []]
      (.fresh .empty .closed)).runWithin defaultLimit 10 =
        some ⟨⟨.empty, .closed, ["1"], []⟩, none⟩ := rfl
  have wholeRun : whole = _ := run_fresh_of_runWithin halted
  have reducedRun : reduced = _ := run_fresh_of_runWithin finished
  refine ⟨?_, by rw [wholeRun]; rfl, by rw [wholeRun]; rfl, by rw [reducedRun]; rfl,
    by rw [reducedRun]; rfl, fun agrees => ?_⟩
  · rintro name (occurs | ⟨definition, present, -⟩)
    · simp [defineUnused, Token.occursIn_cons_iff, Token.not_occursIn_nil, Token.push] at occurs
    · cases present
  · have error := agrees.error
    rw [wholeRun, reducedRun] at error
    cases error

end Forth
