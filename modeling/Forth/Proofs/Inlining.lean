/-
This file says that a call is nothing but the body of the word put in its place. A
body that is entered runs one level deeper, and the depth matters only in comparison
with the limit. So calling a word under some limit is running its body under the
limit below it, with whatever the body defines anew on its way, and what comes after
the call finds the same workspace in both cases.

Only the limit can tell the two apart. A call needs one level more than the body that
is put in its place, and one level more is always enough.
-/

import Forth.Proofs.DepthLimit
import Forth.Proofs.Sequencing

namespace Forth

/-! ### The depth and the limit -/

/-- Only the difference between the limit and the depth matters. -/
theorem evaluate_add (limit depth levels : Int) (workspace : Workspace) (tokens : List Token) :
    evaluate (limit + levels) (depth + levels) workspace tokens =
      evaluate limit depth workspace tokens := by
  fun_induction evaluate limit depth workspace tokens with
  | case1 depth workspace => rw [evaluate]
  | case2 depth workspace opcode arguments rest fault failed =>
    rw [evaluate]
    simp only [failed]
  | case3 depth workspace opcode arguments rest text stack executed restHypothesis =>
    rw [evaluate]
    simp only [executed, restHypothesis]
  | case4 depth workspace name body rest error failed =>
    rw [evaluate]
    simp only [failed]
  | case5 depth workspace name body rest dictionary stored restHypothesis =>
    rw [evaluate]
    simp only [stored, restHypothesis]
  | case6 depth workspace name rest error searched =>
    rw [evaluate]
    simp only [searched]
  | case7 depth workspace name rest searched =>
    rw [evaluate]
    simp only [searched]
  | case8 depth workspace name rest body searched tooDeep =>
    rw [evaluate]
    simp only [searched, if_pos (Int.add_lt_add_right tooDeep levels)]
  | case9 depth workspace name rest body searched allowed next finished bodyHypothesis
      restHypothesis =>
    -- The body is one level deeper, to which the same levels are added.
    have deeper : depth + levels + 1 = depth + 1 + levels := by omega
    rw [evaluate]
    simp only [searched, if_neg (mt Int.lt_of_add_lt_add_right allowed), deeper, bodyHypothesis,
      finished, restHypothesis]
  | case10 depth workspace name rest body searched allowed unfinished bodyHypothesis =>
    have deeper : depth + levels + 1 = depth + 1 + levels := by omega
    rw [evaluate]
    simp only [searched, if_neg (mt Int.lt_of_add_lt_add_right allowed), deeper, bodyHypothesis]

/-- An evaluation at some depth is a run under a limit that is lower by the levels above it. -/
theorem evaluate_eq_run (limit depth : Int) (workspace : Workspace) (tokens : List Token) :
    evaluate limit depth workspace tokens =
      (Machine.start tokens workspace).run (limit + 1 - depth) := by
  rw [run_start, ← evaluate_add (limit + 1 - depth) 1 (depth - 1)]
  congr 1 <;> omega

/-! ### Single calls -/

namespace Machine

variable {limit : Int} {workspace : Workspace} {name : String} {body : List Token}

/-- A call that is within the limit runs the body of the word, with one level less. -/
theorem run_call (found : workspace.dictionary.search name = .ok (some body)) (allowed : 0 < limit) :
    (start [.search name] workspace).run limit = (start body workspace).run (limit - 1) := by
  have levels : limit - 1 = limit + 1 - (1 + 1) := by omega
  have notTooDeep : ¬ limit < 1 := by omega
  rw [levels, ← evaluate_eq_run, run_start, evaluate]
  simp only [found, if_neg notTooDeep]
  generalize evaluate limit (1 + 1) workspace body = final
  obtain ⟨next, fault⟩ := final
  cases fault with
  | none => simp only [evaluate]
  | some fault => rfl

theorem run_call_of_le (found : workspace.dictionary.search name = .ok (some body))
    (tooFew : limit ≤ 0) : ((start [.search name] workspace).run limit).IsCutShort := by
  have tooDeep : limit < 1 := by omega
  rw [run_start, evaluate]
  simp only [found, if_pos tooDeep]
  exact ⟨name, rfl⟩

end Machine

/-! ### Calls between other tokens -/

theorem RunEnd.not_isCutShort_of_andThen {final : RunEnd} {next : Workspace → RunEnd}
    (notCut : ¬ (final.andThen next).IsCutShort) : ¬ final.IsCutShort := by
  rintro ⟨name, fault⟩
  refine notCut ⟨name, ?_⟩
  simp only [andThen, fault]

namespace Machine

variable {limit : Int} {workspace next : Workspace} {name : String} {before body after : List Token}

theorem run_between (finished : (start before workspace).run limit = ⟨next, none⟩)
    (middle after : List Token) :
    (start (before ++ middle ++ after) workspace).run limit =
      ((start middle next).run limit).andThen fun left => (start after left).run limit := by
  rw [List.append_assoc, run_start_append, finished, RunEnd.andThen_finished, run_start_append]

/-- If the body of a word is put in the place of a call, and nothing was too deep before, the run
ends in the same way. -/
theorem run_body_eq (finished : (start before workspace).run limit = ⟨next, none⟩)
    (found : next.dictionary.search name = .ok (some body))
    (notCut : ¬ ((start (before ++ [.search name] ++ after) workspace).run limit).IsCutShort) :
    (start (before ++ body ++ after) workspace).run limit =
      (start (before ++ [.search name] ++ after) workspace).run limit := by
  rw [run_between finished] at notCut
  have callNotCut := RunEnd.not_isCutShort_of_andThen notCut
  have allowed : 0 < limit := by
    refine Int.not_le.1 fun tooFew => callNotCut (run_call_of_le found tooFew)
  rw [run_call found allowed] at callNotCut
  rw [run_between finished, run_between finished, run_call found allowed,
    run_eq_of_le (by omega) callNotCut]

/-- If a call is put in the place of the body of its word, and nothing was too deep before, the run
ends in the same way under a limit that allows one level more. -/
theorem run_call_eq (finished : (start before workspace).run limit = ⟨next, none⟩)
    (found : next.dictionary.search name = .ok (some body)) (notNegative : 0 ≤ limit)
    (notCut : ¬ ((start (before ++ body ++ after) workspace).run limit).IsCutShort) :
    (start (before ++ [.search name] ++ after) workspace).run (limit + 1) =
      (start (before ++ body ++ after) workspace).run limit := by
  -- The body runs under the old limit in both cases. What stands before and after it runs under the
  -- new one with the call, which makes no difference because the old one did not cut it short.
  have more : limit ≤ limit + 1 := by omega
  have beforeNotCut : ¬ ((start before workspace).run limit).IsCutShort := by
    rw [finished]
    exact fun ⟨_, tooDeep⟩ => nomatch tooDeep
  rw [run_between finished] at notCut
  rw [run_between ((run_eq_of_le more beforeNotCut).trans finished), run_between finished,
    run_call found (Int.lt_add_one_of_le notNegative), Int.add_sub_cancel]
  generalize (start body next).run limit = final at notCut ⊢
  obtain ⟨left, fault⟩ := final
  cases fault with
  | none => exact run_eq_of_le more notCut
  | some fault => rfl

end Machine

/-! ### Evaluators -/

namespace Evaluator

variable {stack : Stack} {dictionary : Dictionary} {limit : Int} {tokens : List Token}

/-- Tokens that an evaluator runs without an error and with an answer come to their end. -/
theorem run_eq_finished (notHalted : ((fresh stack dictionary limit).run tokens).1.error = none)
    (answered : ∃ text, ((fresh stack dictionary limit).run tokens).2 = .ok text) :
    (Machine.start tokens (.fresh stack dictionary)).run limit =
      ⟨((fresh stack dictionary limit).run tokens).1.workspace, none⟩ := by
  rw [run_fresh] at notHalted answered ⊢
  generalize (Machine.start tokens (.fresh stack dictionary)).run limit = final
    at notHalted answered ⊢
  obtain ⟨workspace, fault⟩ := final
  obtain ⟨text, answered⟩ := answered
  match fault with
  | none => rfl
  | some (.halt error) => cases notHalted
  | some (.misuse cause) => cases answered

/-- A call of a word does what the body does that the word has at that moment, whatever is run before
and after it. If no word was nested too deep with the call, then an evaluator that finds the body in
the place of the call becomes the same and gives the same answer. If no word was nested too deep with
the body, then with the call and one level more there are the same texts, stack, dictionary, error
and answer. -/
theorem run_body_in_place_of_call (limit : Int) (stack : Stack) (dictionary : Dictionary)
    (before body after : List Token) (name : String) :
    let alone := (fresh stack dictionary limit).run before
    let called (limit : Int) :=
      (fresh stack dictionary limit).run (before ++ [.search name] ++ after)
    let inlined := (fresh stack dictionary limit).run (before ++ body ++ after)
    alone.1.error = none → (∃ text, alone.2 = .ok text) →
    alone.1.workspace.dictionary.search name = .ok (some body) →
      ((∀ word, (called limit).1.error ≠ some (.nestingTooDeep word)) → inlined = called limit) ∧
      (0 ≤ limit → (∀ word, inlined.1.error ≠ some (.nestingTooDeep word)) →
        (called (limit + 1)).1.workspace = inlined.1.workspace ∧
        (called (limit + 1)).1.error = inlined.1.error ∧ (called (limit + 1)).2 = inlined.2) := by
  intro alone called inlined notHalted answered found
  have finished := run_eq_finished notHalted answered
  refine ⟨fun notTooDeep => ?_, fun notNegative notTooDeep => ?_⟩
  · exact congrArg (fresh stack dictionary limit).finish
      (Machine.run_body_eq finished found (not_isCutShort notTooDeep))
  · exact run_fresh_congr
      (Machine.run_call_eq finished found notNegative (not_isCutShort notTooDeep))

/-- The body of a word that prints one, but not before it has given itself another body, which is
the one that it then calls. -/
def renewal : List Token :=
  [.store "next" [.push (.int 7), .operation .pop []], .push (.int 1), .operation .pop [],
    .search "next"]

/-- Two levels are enough for the call, and then the body in its place makes no difference. One level
is enough for the body, and then one more is enough for the call. -/
theorem run_body_in_place_of_call_renewal :
    let run (limit : Int) (middle : List Token) := (fresh .empty .empty limit).run
      ([.store "next" renewal] ++ middle ++ [.search "next"])
    run 2 renewal = run 2 [.search "next"] ∧
      (run 2 [.search "next"]).1.workspace.outputs = ["1", "7", "7"] ∧
      (run 1 [.search "next"]).1.error = some (.nestingTooDeep "next") ∧
      (run (1 + 1) [.search "next"]).2 = (run 1 renewal).2 := by
  intro run
  have alone (limit : Int) :
      let defined := (fresh .empty .empty limit).run [.store "next" renewal]
      defined.1.error = none ∧ (∃ text, defined.2 = .ok text) ∧
        defined.1.workspace.dictionary.search "next" = .ok (some renewal) := by
    obtain ⟨words, finished, found⟩ : ∃ words,
        (Machine.start [.store "next" renewal] (.fresh .empty .empty)).runWithin limit 3 =
          some ⟨⟨.empty, words, [], ["next"]⟩, none⟩ ∧
        words.search "next" = .ok (some renewal) := ⟨_, rfl, rfl⟩
    rw [run_fresh_of_runWithin finished]
    exact ⟨rfl, ⟨_, rfl⟩, found⟩
  obtain ⟨words, called⟩ : ∃ words,
      (Machine.start ([.store "next" renewal] ++ [.search "next"] ++ [.search "next"])
        (.fresh .empty .empty)).runWithin 2 30 =
        some ⟨⟨.empty, words, ["7", "7", "1"], ["next", "next"]⟩, none⟩ := ⟨_, rfl⟩
  obtain ⟨others, inlined⟩ : ∃ others,
      (Machine.start ([.store "next" renewal] ++ renewal ++ [.search "next"])
        (.fresh .empty .empty)).runWithin 1 30 =
        some ⟨⟨.empty, others, ["7", "7", "1"], ["next", "next"]⟩, none⟩ := ⟨_, rfl⟩
  obtain ⟨left, cut⟩ : ∃ left,
      (Machine.start ([.store "next" renewal] ++ [.search "next"] ++ [.search "next"])
        (.fresh .empty .empty)).runWithin 1 30 =
        some ⟨left, some (.halt (.nestingTooDeep "next"))⟩ := ⟨_, rfl⟩
  have calledRun : run 2 [.search "next"] = _ := run_fresh_of_runWithin called
  have inlinedRun : run 1 renewal = _ := run_fresh_of_runWithin inlined
  have cutRun : run 1 [.search "next"] = _ := run_fresh_of_runWithin cut
  have calledNotTooDeep : ∀ word,
      (run 2 [.search "next"]).1.error ≠ some (.nestingTooDeep word) := by
    rw [calledRun]
    exact nofun
  have inlinedNotTooDeep : ∀ word, (run 1 renewal).1.error ≠ some (.nestingTooDeep word) := by
    rw [inlinedRun]
    exact nofun
  obtain ⟨inlinedSame, -⟩ := run_body_in_place_of_call 2 .empty .empty [.store "next" renewal] renewal
    [.search "next"] "next" (alone 2).1 (alone 2).2.1 (alone 2).2.2
  obtain ⟨-, calledSame⟩ := run_body_in_place_of_call 1 .empty .empty [.store "next" renewal] renewal
    [.search "next"] "next" (alone 1).1 (alone 1).2.1 (alone 1).2.2
  exact ⟨inlinedSame calledNotTooDeep, by rw [calledRun]; rfl, by rw [cutRun]; rfl,
    (calledSame (by decide) inlinedNotTooDeep).2.2⟩

end Evaluator

end Forth
