/-
This file says that names are opaque. If every name in a program and in the
dictionary is replaced by another one, so that different names stay different, the
program prints the same texts and leaves the same stack. Its dictionary has the
same words under their new names, and an error is about the same word. Neither the
case of a name, nor its place in the order, nor how it begins matters for anything
but the order in which the names are listed.
-/

import Forth.Proofs.Renaming
import Mathlib.Logic.Equiv.Basic

namespace Forth

/-- The naming that replaces every name by another one. -/
def Naming.ofInjective (rename : String → String) (injective : Function.Injective rename) :
    Naming where
  newName? name := some (rename name)
  distinct _ _ _ first second := injective (Option.some.inj (first.trans second.symm))

namespace Naming

variable {rename : String → String} {injective : Function.Injective rename}

theorem covers_ofInjective (tokens : List Token) : (ofInjective rename injective).Covers tokens :=
  fun name _ => ⟨rename name, rfl⟩

theorem suits_ofInjective (workspace : Workspace) (tokens : List Token) :
    (ofInjective rename injective).Suits workspace tokens where
  covers := covers_ofInjective tokens
  covered definition _ := covers_ofInjective definition.body
  kept _ _ _ _ leftOut := nomatch leftOut

theorem names_ofInjective (dictionary : Dictionary) :
    (dictionary.renamed (ofInjective rename injective)).names =
      dictionary.names.map fun names => (names.map rename).mergeSort := by
  obtain ⟨_ | vocabulary⟩ := dictionary
  · rfl
  · refine congrArg Except.ok ((Vocabulary.names_renamed vocabulary).trans ?_)
    rw [← List.filterMap_eq_map]
    rfl

end Naming

/-- A run with other names, different ones for different words, does what the run does. It prints the
same texts and leaves the same stack. In its dictionary each word has, under its new name, the same
body with the new names in it, and the names that it lists are the new names in order. It is halted
by the same error, about the same word, or by none, and a misuse that breaks one of the runs off
breaks off both. -/
theorem Evaluator.run_with_other_names (rename : String → String)
    (injective : Function.Injective rename) (limit : Int) (stack : Stack)
    (dictionary : Dictionary) (tokens : List Token) :
    let naming := Naming.ofInjective rename injective
    let plain := (fresh stack dictionary limit).run tokens
    let other := (fresh stack (dictionary.renamed naming) limit).run (renamedTokens naming tokens)
    other.1.workspace.outputs = plain.1.workspace.outputs ∧
      other.1.workspace.stack = plain.1.workspace.stack ∧
      other.1.workspace.dictionary = plain.1.workspace.dictionary.renamed naming ∧
      (∀ name, other.1.workspace.dictionary.search (rename name) =
        (plain.1.workspace.dictionary.search name).map (Option.map (renamedTokens naming))) ∧
      other.1.workspace.dictionary.names =
        plain.1.workspace.dictionary.names.map (fun names => (names.map rename).mergeSort) ∧
      other.1.error = plain.1.error.map (RuntimeError.renamed naming) ∧
      ∀ cause, other.2 = .error cause ↔ plain.2 = .error cause := by
  intro naming plain other
  obtain ⟨workspace, error, misuse, plainAnswer, otherAnswer⟩ :=
    run_fresh_renamed limit (Naming.suits_ofInjective (.fresh stack dictionary) tokens)
  refine ⟨(congrArg Workspace.outputs workspace).trans (Workspace.outputs_renamed _),
    (congrArg Workspace.stack workspace).trans (Workspace.stack_renamed _),
    congrArg Workspace.dictionary workspace, fun name => ?_, ?_, error, fun cause => ?_⟩
  · rw [workspace]
    exact Dictionary.search_renamed rfl _
  · rw [workspace]
    exact Naming.names_ofInjective _
  · rw [plainAnswer, otherAnswer]
    cases misuse with
    | none => exact ⟨nofun, nofun⟩
    | some misuse => exact Iff.rfl

/-- The printing of a number by a word that a second word calls, and then a call of a word that is
not defined. -/
def callTheUndefined : List Token :=
  [.store "alpha" [.push (.int 7), .operation .pop []], .store "middle" [.search "alpha"],
    .search "middle", .search "omega"]

/-- Two names change places, and only one of them is defined. Its word is then the last in order, and
the error is about the other name. -/
theorem Evaluator.run_with_other_names_callTheUndefined :
    let naming := Naming.ofInjective (Equiv.swap "alpha" "omega") (Equiv.swap _ _).injective
    let other := (fresh .empty .empty defaultLimit).run (renamedTokens naming callTheUndefined)
    Function.Injective (Equiv.swap "alpha" "omega") ∧
      other.1.workspace.outputs = ["7"] ∧
      other.1.workspace.dictionary.search "middle" = .ok (some [.search "omega"]) ∧
      other.1.workspace.dictionary.names = .ok ["middle", "omega"] ∧
      other.1.error = some (.unknownWord "alpha") := by
  intro naming other
  obtain ⟨words, halted, found, names⟩ : ∃ words,
      (Machine.start callTheUndefined (.fresh .empty .empty)).runWithin defaultLimit 20 =
        some ⟨⟨.empty, words, ["7"], ["middle", "alpha"]⟩, some (.halt (.unknownWord "omega"))⟩ ∧
      words.search "middle" = .ok (some [.search "alpha"]) ∧
      words.names = .ok ["alpha", "middle"] := ⟨_, rfl, rfl, rfl⟩
  have plain : (fresh .empty .empty defaultLimit).run callTheUndefined = _ :=
    run_fresh_of_runWithin halted
  obtain ⟨outputs, -, -, search, otherNames, error, -⟩ :=
    run_with_other_names (Equiv.swap "alpha" "omega") (Equiv.swap _ _).injective defaultLimit .empty
      .empty callTheUndefined
  rw [plain] at outputs search otherNames error
  refine ⟨(Equiv.swap _ _).injective, outputs, ?_, otherNames.trans ?_, error.trans ?_⟩
  · refine (search "middle").trans ?_
    rw [found]
    rfl
  · rw [names]
    have order : ¬ "omega" ≤ "middle" := by decide
    have sorted : ["omega", "middle"].mergeSort = ["middle", "omega"] := by
      simp [List.mergeSort, List.MergeSort.Internal.splitInTwo, order]
    exact congrArg Except.ok sorted
  · rfl

end Forth
