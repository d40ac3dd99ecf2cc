/-
This file says that the limit on the depth of calls only ever cuts a run short. A
step that goes on under one limit goes on in the same way under a larger one, and
what ends a run under one limit ends it under a larger one, too, unless it is the
limit itself. So the run with the larger limit begins with all that the other one
does. It is the same run if the limit did not cut the other one short, and otherwise
it goes on from there, and what was printed until then stays printed.
-/

import Forth.Proofs.Invariant
import Forth.Proofs.Recursion

namespace Forth

/-- Whether the limit on the depth of calls is what ended a run. -/
def RunEnd.IsCutShort (final : RunEnd) : Prop :=
  ∃ name, final.fault = some (.halt (.nestingTooDeep name))

namespace Machine

variable {limit larger : Int} {machine next later : Machine}

/-! ### Steps under two limits -/

theorem Transition.of_le (more : limit ≤ larger) (transition : Transition limit machine next) :
    Transition larger machine next := by
  cases transition with
  | leave outer workspace => exact .leave outer workspace
  | operate opcode arguments rest outer workspace text stack executed =>
    exact .operate opcode arguments rest outer workspace text stack executed
  | define name body rest outer workspace dictionary stored =>
    exact .define name body rest outer workspace dictionary stored
  | enter name body rest outer workspace found allowed =>
    exact .enter name body rest outer workspace found (allowed.trans more)

/-- An obstacle is one under every other limit, unless it is the depth of a call. -/
theorem Obstacle.of_limit {fault : Fault} (obstacle : Obstacle limit machine fault) (other : Int) :
    Obstacle other machine fault ∨ ∃ name, fault = .halt (.nestingTooDeep name) := by
  cases obstacle with
  | operate opcode arguments rest outer workspace fault failed =>
    exact .inl (.operate opcode arguments rest outer workspace fault failed)
  | define name body rest outer workspace error failed =>
    exact .inl (.define name body rest outer workspace error failed)
  | enter name rest outer workspace error failed =>
    obtain searched | ⟨searched, rfl⟩ | ⟨body, -, -, rfl⟩ :=
      Workspace.cases_of_call_eq_error failed
    · refine .inl (.enter name rest outer workspace _ ?_)
      simp only [Workspace.call, searched]
    · refine .inl (.enter name rest outer workspace _ ?_)
      simp only [Workspace.call, searched]
    · exact .inr ⟨name, rfl⟩

theorem Reaches.of_le (more : limit ≤ larger) (reaches : Reaches limit machine later) :
    Reaches larger machine later := by
  induction reaches with
  | refl => exact .refl
  | tail _ stepped inductionHypothesis =>
    exact inductionHypothesis.tail ((step_eq_running_iff.1 stepped).of_le more).step_eq

/-! ### What a run passes through -/

theorem Reaches.run_eq (reaches : Reaches limit machine later) :
    machine.run limit = later.run limit := by
  induction reaches with
  | refl => rfl
  | tail _ stepped inductionHypothesis =>
    exact inductionHypothesis.trans (step_eq_running_iff.1 stepped).run_eq

theorem Transition.printed_isSuffix (transition : Transition limit machine next) :
    machine.workspace.printed <:+ next.workspace.printed := by
  cases transition with
  | leave | define | enter => exact List.suffix_rfl
  | operate opcode arguments rest outer workspace text stack executed =>
    show _ <:+ if text.isEmpty then workspace.printed else text :: workspace.printed
    split
    · exact List.suffix_rfl
    · exact List.suffix_cons text workspace.printed

theorem Reaches.printed_isSuffix (reaches : Reaches limit machine later) :
    machine.workspace.printed <:+ later.workspace.printed := by
  induction reaches with
  | refl => exact List.suffix_rfl
  | tail _ stepped inductionHypothesis =>
    exact inductionHypothesis.trans (step_eq_running_iff.1 stepped).printed_isSuffix

theorem Stops.workspace_eq {final : RunEnd} (stops : Stops limit machine final) :
    final.workspace = machine.workspace := by
  cases stops <;> rfl

/-- What was printed stays printed, and more may be printed after it. -/
theorem outputs_isPrefix_run (limit : Int) (machine : Machine) :
    machine.workspace.outputs <+: (machine.run limit).workspace.outputs := by
  obtain ⟨last, reaches, stops⟩ := exists_stops limit machine
  rw [stops.workspace_eq]
  exact List.reverse_prefix.2 reaches.printed_isSuffix

/-- The run with a larger limit passes through the workspace in which the other one ends. -/
theorem exists_reaches_of_le (more : limit ≤ larger) (machine : Machine) :
    ∃ frames, Reaches larger machine ⟨frames, (machine.run limit).workspace⟩ := by
  obtain ⟨last, reaches, stops⟩ := exists_stops limit machine
  rw [stops.workspace_eq]
  exact ⟨last.frames, reaches.of_le more⟩

theorem outputs_isPrefix_of_le (more : limit ≤ larger) (machine : Machine) :
    (machine.run limit).workspace.outputs <+: (machine.run larger).workspace.outputs := by
  obtain ⟨frames, reaches⟩ := exists_reaches_of_le more machine
  rw [reaches.run_eq]
  exact outputs_isPrefix_run larger ⟨frames, (machine.run limit).workspace⟩

/-- A run that is not cut short is the same run with a larger limit. -/
theorem run_eq_of_le (more : limit ≤ larger) {machine : Machine}
    (notCut : ¬ (machine.run limit).IsCutShort) : machine.run larger = machine.run limit := by
  obtain ⟨last, reaches, stops⟩ := exists_stops limit machine
  rw [(reaches.of_le more).run_eq]
  generalize machine.run limit = final at stops notCut ⊢
  cases stops with
  | finished workspace => exact run_nil workspace
  | obstructed _ fault obstacle =>
    obtain same | tooDeep := obstacle.of_limit larger
    · exact same.run_eq
    · obtain ⟨name, rfl⟩ := tooDeep
      exact absurd ⟨name, rfl⟩ notCut

end Machine

/-! ### Evaluators with different limits -/

theorem RunEnd.isCutShort_iff {final : RunEnd} :
    final.IsCutShort ↔ ∃ name, final.error? = some (.nestingTooDeep name) :=
  exists_congr fun _ => error?_eq_some_iff.symm

namespace Evaluator

variable {stack : Stack} {dictionary : Dictionary} {limit larger : Int} {tokens others : List Token}

theorem not_isCutShort (notTooDeep : ∀ name,
      ((fresh stack dictionary limit).run tokens).1.error ≠ some (.nestingTooDeep name)) :
    ¬ ((Machine.start tokens (.fresh stack dictionary)).run limit).IsCutShort := by
  rw [run_fresh] at notTooDeep
  rw [RunEnd.isCutShort_iff]
  exact fun ⟨name, tooDeep⟩ => notTooDeep name tooDeep

/-- If two runs end in the same way, then evaluators that have made them, be it under different
limits, have the same workspace and error, and they give the same answer. -/
theorem run_fresh_congr (same : (Machine.start tokens (.fresh stack dictionary)).run limit =
      (Machine.start others (.fresh stack dictionary)).run larger) :
    let left := (fresh stack dictionary limit).run tokens
    let right := (fresh stack dictionary larger).run others
    left.1.workspace = right.1.workspace ∧ left.1.error = right.1.error ∧ left.2 = right.2 := by
  rw [run_fresh, run_fresh, same]
  exact ⟨rfl, rfl, rfl⟩

end Evaluator

/-- A run that is not halted because words are nested too deep is the same with every larger limit:
the same texts, stack, dictionary, error and answer. A run that is halted for this reason is the
beginning of the one with the larger limit, which comes to the very workspace in which the other was
halted, and whose texts begin with those that the other has printed. -/
theorem run_of_limit_le (stack : Stack) (dictionary : Dictionary) (tokens : List Token)
    (limit larger : Int) (more : limit ≤ larger) :
    let shorter := (Evaluator.fresh stack dictionary limit).run tokens
    let longer := (Evaluator.fresh stack dictionary larger).run tokens
    ((∀ name, shorter.1.error ≠ some (.nestingTooDeep name)) →
      longer.1.workspace = shorter.1.workspace ∧ longer.1.error = shorter.1.error ∧
        longer.2 = shorter.2) ∧
    ∀ name, shorter.1.error = some (.nestingTooDeep name) →
      shorter.1.workspace.outputs <+: longer.1.workspace.outputs ∧
      ∃ frames, Machine.Reaches larger (.start tokens (.fresh stack dictionary))
        ⟨frames, shorter.1.workspace⟩ := by
  intro shorter longer
  refine ⟨fun notTooDeep => ?_, fun _ _ => ?_⟩
  · exact Evaluator.run_fresh_congr (Machine.run_eq_of_le more (Evaluator.not_isCutShort notTooDeep))
  · rw [show shorter = _ from Evaluator.run_fresh _ _ _ _,
      show longer = _ from Evaluator.run_fresh _ _ _ _]
    exact ⟨Machine.outputs_isPrefix_of_le more _, Machine.exists_reaches_of_le more _⟩

/-- A program whose word prints one and calls itself. -/
def onesForEver : List Token :=
  [.store "ones" [.push (.int 1), .operation .pop [], .search "ones"], .search "ones"]

/-- With one more level, one more is printed. A limit that is not reached makes no difference. -/
theorem run_of_limit_le_onesForEver :
    let run (limit : Int) := (Evaluator.fresh .empty .empty limit).run onesForEver
    (run 2).1.error = some (.nestingTooDeep "ones") ∧
      (run 2).1.workspace.outputs = ["1", "1"] ∧
      (run 2).1.workspace.outputs <+: (run 3).1.workspace.outputs ∧
      (run 3).1.workspace.outputs = ["1", "1", "1"] ∧
      ((Evaluator.fresh .empty .empty 7).run (onesForEver.take 1)).2 =
        ((Evaluator.fresh .empty .empty 0).run (onesForEver.take 1)).2 := by
  intro run
  obtain ⟨words, cut⟩ : ∃ words,
      (Machine.start onesForEver (.fresh .empty .empty)).runWithin 2 20 =
        some ⟨⟨.empty, words, ["1", "1"], ["ones"]⟩,
          some (.halt (.nestingTooDeep "ones"))⟩ := ⟨_, rfl⟩
  obtain ⟨others, later⟩ : ∃ others,
      (Machine.start onesForEver (.fresh .empty .empty)).runWithin 3 20 =
        some ⟨⟨.empty, others, ["1", "1", "1"], ["ones"]⟩,
          some (.halt (.nestingTooDeep "ones"))⟩ := ⟨_, rfl⟩
  obtain ⟨defined, finished⟩ : ∃ defined,
      (Machine.start (onesForEver.take 1) (.fresh .empty .empty)).runWithin 0 20 =
        some ⟨⟨.empty, defined, [], ["ones"]⟩, none⟩ := ⟨_, rfl⟩
  have two : run 2 = _ := Evaluator.run_fresh_of_runWithin cut
  have three : run 3 = _ := Evaluator.run_fresh_of_runWithin later
  have error : (run 2).1.error = some (.nestingTooDeep "ones") := by rw [two]; rfl
  have notCut : ∀ name, ((Evaluator.fresh .empty .empty 0).run (onesForEver.take 1)).1.error ≠
      some (.nestingTooDeep name) := by
    rw [Evaluator.run_fresh_of_runWithin finished]
    exact nofun
  exact ⟨error, by rw [two]; rfl,
    ((run_of_limit_le .empty .empty onesForEver 2 3 (by decide)).2 _ error).1, by rw [three]; rfl,
    ((run_of_limit_le .empty .empty (onesForEver.take 1) 0 7 (by decide)).1 notCut).2.2⟩

end Forth
