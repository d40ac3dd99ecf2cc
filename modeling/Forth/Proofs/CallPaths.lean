/-
This file says what can be told of a run from the calls that are written, if words
are only called and none is defined on the way. A call path is a list of names, of
which the first is referred to in the program and each other one in the body of the
word before it. Every such path is taken by a run that comes to its end, because
nothing is skipped. So the words on it exist and it is not longer than the limit,
and no name is on it twice: a path that comes back to a name can be prolonged at
will. And where all paths are like that, no call fails.
-/

import Forth.Proofs.Failure
import Forth.Proofs.Occurrence
import Forth.Proofs.Recursion

namespace Forth

/-! ### Paths of calls -/

/-- The names on a path of calls that begins in some tokens. The last of them need not be known. -/
inductive CallPath (dictionary : Dictionary) : List Token → List String → Prop where
  | last (tokens : List Token) (name : String) (called : .search name ∈ tokens) :
      CallPath dictionary tokens [name]
  | through (tokens : List Token) (name : String) (body : List Token) (names : List String)
      (called : .search name ∈ tokens) (found : dictionary.search name = .ok (some body))
      (onward : CallPath dictionary body names) : CallPath dictionary tokens (name :: names)

namespace CallPath

variable {dictionary : Dictionary} {tokens rest body : List Token} {names : List String}
  {name : String}

theorem not_nil : ¬ CallPath dictionary [] names := by
  intro path
  cases path with
  | last _ _ called => cases called
  | through _ _ _ _ called => cases called

/-- A path begins with the first token, which is then a reference, or in those behind it. -/
theorem of_cons {token : Token} (path : CallPath dictionary (token :: rest) names) :
    (∃ name, token = .search name ∧ (names = [name] ∨ ∃ body others,
      dictionary.search name = .ok (some body) ∧ names = name :: others ∧
        CallPath dictionary body others)) ∨
      CallPath dictionary rest names := by
  cases path with
  | last _ name called =>
    obtain rfl | later := List.mem_cons.1 called
    · exact .inl ⟨name, rfl, .inl rfl⟩
    · exact .inr (.last rest name later)
  | through _ name body others called found onward =>
    obtain rfl | later := List.mem_cons.1 called
    · exact .inl ⟨name, rfl, .inr ⟨body, others, found, rfl, onward⟩⟩
    · exact .inr (.through rest name body others later found onward)

theorem cons (token : Token) (path : CallPath dictionary rest names) :
    CallPath dictionary (token :: rest) names := by
  cases path with
  | last _ name called => exact .last _ name (List.mem_cons_of_mem _ called)
  | through _ name body others called found onward =>
    exact .through _ name body others (List.mem_cons_of_mem _ called) found onward

/-- From a name on a path, any path that begins in its body can be taken instead of the rest. -/
theorem exists_longer (path : CallPath dictionary tokens names) (member : name ∈ names)
    (found : dictionary.search name = .ok (some body)) {others : List String}
    (onward : CallPath dictionary body others) :
    ∃ longer, CallPath dictionary tokens longer ∧ others.length < longer.length := by
  induction path with
  | last tokens last called =>
    obtain rfl := List.mem_singleton.1 member
    exact ⟨_, .through tokens name body others called found onward, Nat.lt_succ_self _⟩
  | through tokens first firstBody later called firstFound _ inductionHypothesis =>
    obtain rfl | further := List.mem_cons.1 member
    · exact ⟨_, .through tokens name body others called found onward, Nat.lt_succ_self _⟩
    · obtain ⟨longer, path, more⟩ := inductionHypothesis further
      exact ⟨_, .through tokens first firstBody longer called firstFound path, more.trans
        (Nat.lt_succ_self _)⟩

/-- If paths can not be of any length, then none comes back to a name. -/
theorem nodup (limit : Nat)
    (bounded : ∀ others, CallPath dictionary tokens others → others.length ≤ limit)
    (path : CallPath dictionary tokens names) : names.Nodup := by
  induction path with
  | last tokens name called => exact List.nodup_singleton name
  | through tokens name body names called found onward inductionHypothesis =>
    have inBody : ∀ others, CallPath dictionary body others → others.length ≤ limit := by
      intro others path
      have whole := bounded _ (.through tokens name body others called found path)
      exact (Nat.le_succ _).trans whole
    refine List.nodup_cons.2 ⟨fun again => ?_, inductionHypothesis inBody⟩
    -- The path from the body back to the name can be put in front of every other one from there.
    have unbounded (length : Nat) :
        ∃ others, CallPath dictionary body others ∧ length ≤ others.length := by
      induction length with
      | zero => exact ⟨names, onward, Nat.zero_le _⟩
      | succ length lengthHypothesis =>
        obtain ⟨others, path, long⟩ := lengthHypothesis
        obtain ⟨longer, prolonged, more⟩ := onward.exists_longer again found path
        exact ⟨longer, prolonged, long.trans_lt more⟩
    obtain ⟨others, path, long⟩ := unbounded (limit + 1)
    exact absurd (inBody others path) (Nat.not_le.2 long)

end CallPath

/-! ### Runs without definitions -/

/-- Whether none of some tokens is a definition, nor any token of a body in a dictionary. -/
structure Workspace.OnlyCalls (workspace : Workspace) (tokens : List Token) : Prop where
  tokens : ∀ name body, .store name body ∉ tokens
  bodies : ∀ definition ∈ workspace.dictionary.definitions, ∀ name body,
    .store name body ∉ definition.body

namespace Workspace.OnlyCalls

variable {workspace next : Workspace} {token : Token} {rest body : List Token} {name : String}

theorem of_cons (onlyCalls : workspace.OnlyCalls (token :: rest))
    (same : next.dictionary = workspace.dictionary) : next.OnlyCalls rest where
  tokens name body member := onlyCalls.tokens name body (List.mem_cons_of_mem _ member)
  bodies := same ▸ onlyCalls.bodies

theorem body_of_search (onlyCalls : workspace.OnlyCalls rest)
    (found : workspace.dictionary.search name = .ok (some body)) : workspace.OnlyCalls body where
  tokens := onlyCalls.bodies _ (Dictionary.mem_definitions_of_search found)
  bodies := onlyCalls.bodies

end Workspace.OnlyCalls

variable {limit depth : Int} {workspace : Workspace} {tokens : List Token}

/-- Without definitions, the words stay as they are. -/
theorem dictionary_evaluate (limit depth : Int) (onlyCalls : workspace.OnlyCalls tokens) :
    (evaluate limit depth workspace tokens).workspace.dictionary = workspace.dictionary := by
  fun_induction evaluate limit depth workspace tokens with
  | case1 | case2 | case6 | case7 | case8 => rfl
  | case3 depth workspace opcode arguments rest text stack executed restHypothesis =>
    exact restHypothesis (onlyCalls.of_cons rfl)
  | case4 depth workspace name body rest | case5 depth workspace name body rest =>
    exact absurd List.mem_cons_self (onlyCalls.tokens name body)
  | case9 depth workspace name rest body searched allowed next finished bodyHypothesis
      restHypothesis =>
    have same := bodyHypothesis (onlyCalls.body_of_search searched)
    rw [finished] at same
    exact (restHypothesis (onlyCalls.of_cons same)).trans same
  | case10 depth workspace name rest body searched allowed unfinished bodyHypothesis =>
    exact bodyHypothesis (onlyCalls.body_of_search searched)

/-- What is asked of a path that begins at a depth: the words on it are known, and the limit is not
exceeded. -/
def CallPath.Fits (limit depth : Int) (dictionary : Dictionary) (names : List String) : Prop :=
  (∀ name ∈ names, dictionary.Knows name) ∧ depth + names.length ≤ limit + 1

/-- Every path of calls is taken by an evaluation that comes to its end. -/
theorem fits_of_evaluate (onlyCalls : workspace.OnlyCalls tokens)
    (finished : (evaluate limit depth workspace tokens).fault = none) {names : List String}
    (path : CallPath workspace.dictionary tokens names) :
    CallPath.Fits limit depth workspace.dictionary names := by
  fun_induction evaluate limit depth workspace tokens generalizing names with
  | case1 depth workspace => exact absurd path CallPath.not_nil
  | case2 | case6 | case7 | case8 => cases finished
  | case3 depth workspace opcode arguments rest text stack executed restHypothesis =>
    obtain ⟨_, reference, -⟩ | later := path.of_cons
    · cases reference
    · exact restHypothesis (onlyCalls.of_cons rfl) finished later
  | case4 depth workspace name body rest | case5 depth workspace name body rest =>
    exact absurd List.mem_cons_self (onlyCalls.tokens name body)
  | case9 depth workspace name rest body searched allowed next ended bodyHypothesis
      restHypothesis =>
    have same : next.dictionary = workspace.dictionary := by
      simpa only [ended] using
        dictionary_evaluate limit (depth + 1) (onlyCalls.body_of_search searched)
    obtain ⟨called, reference, rfl | ⟨_, others, found, rfl, onward⟩⟩ | later := path.of_cons
    · cases reference
      exact ⟨List.forall_mem_singleton.2 ⟨body, searched⟩, by simp; omega⟩
    · cases reference
      cases searched.symm.trans found
      obtain ⟨known, short⟩ :=
        bodyHypothesis (onlyCalls.body_of_search searched) (by rw [ended]) onward
      refine ⟨List.forall_mem_cons.2 ⟨⟨body, searched⟩, known⟩, ?_⟩
      rw [List.length_cons, Nat.cast_succ]
      omega
    · rw [← same] at later ⊢
      exact restHypothesis (onlyCalls.of_cons same) finished later
  | case10 depth workspace name rest body searched allowed unfinished =>
    generalize evaluate limit (depth + 1) workspace body = final at finished unfinished
    obtain ⟨next, fault⟩ := final
    cases finished
    exact absurd rfl (unfinished next)

/-! ### Calls that fail -/

/-- Whether an error is that of a call. -/
def RuntimeError.IsOfCall (error : RuntimeError) : Prop :=
  ∃ name, error = .unknownWord name ∨ error = .nestingTooDeep name

/-- No operation fails with the error of a call. -/
theorem Stack.not_isOfCall_of_execute {stack : Stack} {opcode : Opcode} {arguments : List Number}
    {error : RuntimeError} (failed : stack.execute opcode arguments = .error (.halt error)) :
    ¬ error.IsOfCall := by
  obtain ⟨_ | values⟩ := stack
  · cases failed
    rintro ⟨name, same | same⟩ <;> cases same
  · have reasons := Opcode.cases_of_effect_eq_error (execute_ofList_eq_error_iff.1 failed)
    rintro ⟨name, rfl | rfl⟩ <;> simp at reasons

/-- Where every path of calls fits, no call fails. -/
theorem not_isOfCall_of_fits (onlyCalls : workspace.OnlyCalls tokens)
    (fits : ∀ names, CallPath workspace.dictionary tokens names →
      CallPath.Fits limit depth workspace.dictionary names) {error : RuntimeError}
    (halted : (evaluate limit depth workspace tokens).fault = some (.halt error)) :
    ¬ error.IsOfCall := by
  fun_induction evaluate limit depth workspace tokens with
  | case1 => cases halted
  | case2 depth workspace opcode arguments rest fault failed =>
    cases halted
    exact Stack.not_isOfCall_of_execute failed
  | case3 depth workspace opcode arguments rest text stack executed restHypothesis =>
    exact restHypothesis (onlyCalls.of_cons rfl) (fun names path => fits names (path.cons _)) halted
  | case4 depth workspace name body rest | case5 depth workspace name body rest =>
    exact absurd List.mem_cons_self (onlyCalls.tokens name body)
  | case6 depth workspace name rest error searched =>
    obtain ⟨known, -⟩ := fits _ (.last _ name List.mem_cons_self)
    obtain ⟨body, found⟩ := known name List.mem_cons_self
    cases searched.symm.trans found
  | case7 depth workspace name rest searched =>
    obtain ⟨known, -⟩ := fits _ (.last _ name List.mem_cons_self)
    obtain ⟨body, found⟩ := known name List.mem_cons_self
    cases searched.symm.trans found
  | case8 depth workspace name rest body searched tooDeep =>
    obtain ⟨-, short⟩ := fits _ (.last _ name List.mem_cons_self)
    rw [List.length_singleton] at short
    omega
  | case9 depth workspace name rest body searched allowed next ended bodyHypothesis
      restHypothesis =>
    have same := dictionary_evaluate limit (depth + 1) (onlyCalls.body_of_search searched)
    rw [ended] at same
    refine restHypothesis (onlyCalls.of_cons same) (fun names path => ?_) halted
    have words : next.dictionary = workspace.dictionary := same
    rw [words] at path ⊢
    exact fits names (path.cons _)
  | case10 depth workspace name rest body searched allowed unfinished bodyHypothesis =>
    refine bodyHypothesis (onlyCalls.body_of_search searched) (fun names path => ?_) halted
    obtain ⟨known, short⟩ := fits _ (.through _ name body names List.mem_cons_self searched path)
    rw [List.length_cons, Nat.cast_succ] at short
    exact ⟨(List.forall_mem_cons.1 known).2, by omega⟩

/-! ### Whole runs -/

/-- If nothing that is written defines a word, then the paths of calls tell whether the calls of a
run succeed. A run that comes to its end has taken each of them: every name on it is that of a word,
it is not longer than the limit, and it has no name twice. And if every name on every path is that
of a word and no path is longer than the limit, then no unknown word and no depth halts the run. -/
theorem run_of_callPaths (limit : Int) (stack : Stack) (dictionary : Dictionary)
    (tokens : List Token)
    (noDefinition : ∀ name body, ¬ (Token.store name body).WrittenIn tokens dictionary) :
    let run := (Evaluator.fresh stack dictionary limit).run tokens
    (run.1.error = none → (∃ text, run.2 = .ok text) →
      ∀ names, CallPath dictionary tokens names →
        (∀ name ∈ names, dictionary.Knows name) ∧ (names.length : Int) ≤ limit ∧ names.Nodup) ∧
    ((∀ names, CallPath dictionary tokens names →
        (∀ name ∈ names, dictionary.Knows name) ∧ (names.length : Int) ≤ limit) →
      ∀ name, run.1.error ≠ some (.unknownWord name) ∧
        run.1.error ≠ some (.nestingTooDeep name)) := by
  have onlyCalls : (Workspace.fresh stack dictionary).OnlyCalls tokens :=
    { tokens := fun name body member => noDefinition name body (.inl (.here tokens member))
      bodies := fun definition present name body member =>
        noDefinition name body (.inr ⟨definition, present, .here definition.body member⟩) }
  intro run
  have ended : run = _ := Evaluator.run_fresh stack dictionary limit tokens
  rw [run_start] at ended
  have fits_iff (names : List String) :
      CallPath.Fits limit 1 dictionary names ↔
        (∀ name ∈ names, dictionary.Knows name) ∧ (names.length : Int) ≤ limit :=
    and_congr_right fun _ => by omega
  constructor
  · rintro noError ⟨text, answered⟩ names path
    rw [ended] at noError answered
    have finished := RunEnd.fault_eq_none noError answered
    have short (others : List String) (way : CallPath dictionary tokens others) :=
      (fits_iff others).1 (fits_of_evaluate onlyCalls finished way)
    obtain ⟨known, within⟩ := short names path
    refine ⟨known, within, CallPath.nodup limit.toNat (fun others way => ?_) path⟩
    have := (short others way).2
    omega
  · intro fits name
    have noCall (error : RuntimeError) (halted : run.1.error = some error) : ¬ error.IsOfCall := by
      rw [ended] at halted
      exact not_isOfCall_of_fits onlyCalls (fun names path => (fits_iff names).2 (fits names path))
        (RunEnd.error?_eq_some_iff.1 halted)
    exact ⟨fun unknown => noCall _ unknown ⟨name, .inl rfl⟩,
      fun tooDeep => noCall _ tooDeep ⟨name, .inr rfl⟩⟩

/-- Words of which one calls the other two times. -/
def quadrupling : Dictionary :=
  .ofList [⟨"twice", [.operation .duplicate [], .operation .add []]⟩,
    ⟨"quadruple", [.search "twice", .search "twice"]⟩]

/-- The path has as many names as the limit allows, and one level less is not enough. Without a
value to begin with, the run is halted, but not by a call. -/
theorem run_of_callPaths_quadrupling :
    let run (stack : Stack) (limit : Int) :=
      (Evaluator.fresh stack quadrupling limit).run [.search "quadruple"]
    (run (.ofList [.int 3]) 2).1.workspace.stack = .ofList [.int 12] ∧
      ["quadruple", "twice"].Nodup ∧
      (run (.ofList [.int 3]) 1).1.error = some (.nestingTooDeep "twice") ∧
      (run .empty 2).1.error = some .stackEmpty ∧
      ∀ name, (run .empty 2).1.error ≠ some (.nestingTooDeep name) := by
  intro run
  have finished : (Machine.start [.search "quadruple"]
      (.fresh (.ofList [.int 3]) quadrupling)).runWithin 2 20 =
        some ⟨⟨.ofList [.int 12], quadrupling, [], []⟩, none⟩ := rfl
  have cut : (Machine.start [.search "quadruple"]
      (.fresh (.ofList [.int 3]) quadrupling)).runWithin 1 20 =
        some ⟨⟨.ofList [.int 3], quadrupling, [], []⟩,
          some (.halt (.nestingTooDeep "twice"))⟩ := rfl
  have halted : (Machine.start [.search "quadruple"]
      (.fresh .empty quadrupling)).runWithin 2 20 =
        some ⟨⟨.empty, quadrupling, [], []⟩, some (.halt .stackEmpty)⟩ := rfl
  have noDefinition (name : String) (body : List Token) :
      ¬ (Token.store name body).WrittenIn [.search "quadruple"] quadrupling := by
    rintro (occurs | ⟨definition, present, occurs⟩)
    · simp [Token.occursIn_cons_iff, Token.not_occursIn_nil] at occurs
    · have words : quadrupling.definitions =
          [⟨"quadruple", [.search "twice", .search "twice"]⟩,
            ⟨"twice", [.operation .duplicate [], .operation .add []]⟩] := rfl
      rw [words] at present
      obtain rfl | rfl : _ ∨ _ := by simpa using present
      · simp [Token.occursIn_cons_iff, Token.not_occursIn_nil] at occurs
      · simp [Token.occursIn_cons_iff, Token.not_occursIn_nil] at occurs
  have ends : run (.ofList [.int 3]) 2 = _ := Evaluator.run_fresh_of_runWithin finished
  have path : CallPath quadrupling [.search "quadruple"] ["quadruple", "twice"] :=
    .through _ _ _ _ List.mem_cons_self rfl (.last _ _ List.mem_cons_self)
  have noError : (run (.ofList [.int 3]) 2).1.error = none := by rw [ends]; rfl
  have answered : ∃ text, (run (.ofList [.int 3]) 2).2 = .ok text := by rw [ends]; exact ⟨_, rfl⟩
  have fits := (run_of_callPaths 2 (.ofList [.int 3]) quadrupling [.search "quadruple"]
    noDefinition).1 noError answered
  refine ⟨by rw [ends], (fits _ path).2.2, ?_, ?_, fun name => ?_⟩
  · rw [show run (.ofList [.int 3]) 1 = _ from Evaluator.run_fresh_of_runWithin cut]
    rfl
  · rw [show run .empty 2 = _ from Evaluator.run_fresh_of_runWithin halted]
    rfl
  · exact ((run_of_callPaths 2 .empty quadrupling [.search "quadruple"] noDefinition).2
      (fun names way => ⟨(fits names way).1, (fits names way).2.1⟩) name).2

end Forth
