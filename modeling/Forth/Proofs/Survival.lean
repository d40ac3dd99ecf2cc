/-
This file says when a conversation lasts until the user leaves. What the user
means by an input depends only on what was read so far: `State.after` tells what
is waited for next, without running anything. So it can be said in advance which
texts are submitted as programs, where the conversation is left, and which inputs
no one reads.

All that stands in the way is the display of the stack. A number may be too long
to be written, and where an operation would report that, the display breaks down.
The conversation ends well exactly if no submitted program leaves such a number
where it is shown.
-/

import Forth.Proofs.Dialogue
import Forth.Proofs.StackDisplay

namespace Forth.Conversation

variable {settings : Settings}

/-! ### Reading inputs -/

/-- What is waited for after a text was submitted. -/
def State.afterText (text : String) : State :=
  match parse text with
  | .error failure => if failure.isIncomplete then .continuing text else .ready
  | .ok _ => .ready

/-- The text that an input submits as a program or as the beginning of one. -/
def State.submission? : State → Input → Option String
  | _, .interrupt => none
  | .continuing text, .line line => some (text ++ "\n" ++ line)
  | .ready, .line line =>
    let command := Text.smallLetters (Text.trim line)
    if exitWords.contains command || helpWords.contains command || command.isEmpty then none
    else some line

/-- Whether an input ends the conversation. Only a line that could begin a program does. -/
def State.isLeft : State → Input → Bool
  | .ready, .line line => exitWords.contains (Text.smallLetters (Text.trim line))
  | _, _ => false

/-- What is waited for after an input. -/
def State.after (state : State) (input : Input) : State :=
  match state.submission? input with
  | some text => afterText text
  | none => .ready

/-- The texts that are submitted before the conversation is left. -/
def submissions : State → List Input → List String
  | _, [] => []
  | state, input :: rest =>
    if state.isLeft input then []
    else (state.submission? input).toList ++ submissions (state.after input) rest

/-- The inputs after the one that ends the conversation. -/
def unreadAfter : State → List Input → List Input
  | _, [] => []
  | state, input :: rest =>
    if state.isLeft input then rest else unreadAfter (state.after input) rest

/-! ### Reactions -/

theorem react_of_isLeft {state : State} {input : Input} (left : state.isLeft input = true) :
    react settings state input = ⟨[], .leaving⟩ := by
  unfold State.isLeft at left
  split at left
  next line => simp only [react, left, if_true]
  next => cases left

theorem react_of_submission {state : State} {input : Input} {text : String}
    (submitted : state.submission? input = some text) :
    react settings state input = submit settings text := by
  unfold State.submission? at submitted
  split at submitted
  next => cases submitted
  next begun line =>
    cases submitted
    rfl
  next line =>
    simp only at submitted
    split at submitted
    next => cases submitted
    next program =>
      cases submitted
      simp only [Bool.or_eq_true, not_or] at program
      obtain ⟨⟨noExit, noHelp⟩, notBlank⟩ := program
      simp only [react, if_neg noExit, if_neg noHelp, if_neg notBlank]

theorem react_of_no_submission {state : State} {input : Input} (stays : state.isLeft input = false)
    (none : state.submission? input = none) :
    (react settings state input).next = .waiting .ready := by
  unfold State.submission? at none
  split at none
  next => cases state <;> rfl
  next => cases none
  next line =>
    have noExit : ¬ exitWords.contains (Text.smallLetters (Text.trim line)) = true :=
      Bool.eq_false_iff.1 stays
    simp only at none
    split at none
    next command =>
      simp only [Bool.or_eq_true] at command
      obtain (exit | help) | blank := command
      · exact absurd exit noExit
      · simp only [react, if_neg noExit, if_pos help]
      · simp only [react, if_neg noExit, if_pos blank]
        split <;> rfl
    next => cases none

/-! ### Showing the final stack -/

/-- Whether a program leaves a number with too many digits where it is shown. -/
def LeavesUnshowable (settings : Settings) (text : String) : Prop :=
  settings.showStack = true ∧
    ∃ report, run settings.limit text = .ok report ∧ Unshowable report.stack

theorem submit_next_of_leavesUnshowable {text : String}
    (leaves : LeavesUnshowable settings text) :
    (submit settings text).next = .broken .unprintable := by
  obtain ⟨shows, report, ran, unshowable⟩ := leaves
  have breaks := (showLines_next (stackLines report.stack)).1 (unshowable_iff.1 unshowable)
  have result : (runWithLog settings.limit text).result = .ok report := ran
  simp only [submit, result, present, shows, if_true, breaks]

theorem submit_next_of_not_leavesUnshowable {text : String}
    (showable : ¬ LeavesUnshowable settings text) :
    (submit settings text).next = .waiting (.afterText text) := by
  cases parsed : parse text with
  | error failure =>
    simp only [submit, runWithLog_of_parse_eq_error parsed, State.afterText, parsed]
    split <;> rfl
  | ok tokens =>
    have after : State.afterText text = .ready := by rw [State.afterText, parsed]
    rw [after]
    simp only [submit, runWithLog_of_parse_eq_ok parsed, present]
    split
    next shows =>
      refine (showLines_next _).2 fun unwritable =>
        showable ⟨shows, _, run_of_parse_eq_ok parsed, ?_⟩
      exact unshowable_iff.2 unwritable
    next => rfl

/-- An input that does not end the conversation leads on, unless it submits a program that leaves
such a number. -/
theorem next_of_showable {state : State} {input : Input} (stays : state.isLeft input = false)
    (showable : ∀ text ∈ (state.submission? input).toList, ¬ LeavesUnshowable settings text) :
    (react settings state input).next = .waiting (state.after input) := by
  unfold State.after
  cases submitted : state.submission? input with
  | none => exact react_of_no_submission stays submitted
  | some text =>
    rw [react_of_submission submitted]
    rw [submitted] at showable
    exact submit_next_of_not_leavesUnshowable (showable text List.mem_cons_self)

/-! ### Whole conversations -/

/-- A transcript that ends as it should: nothing broke down, the farewell comes last, and the given
inputs are left. -/
structure Transcript.EndsWell (transcript : Transcript) (left : List Input) : Prop where
  unbroken : transcript.breakdown = none
  farewell_last : ∃ shown, transcript.events = shown ++ [farewell]
  unread : transcript.unread = left

theorem Transcript.EndsWell.after {transcript : Transcript} {left : List Input}
    (endsWell : transcript.EndsWell left) (events : List Event) :
    (transcript.after events).EndsWell left := by
  obtain ⟨unbroken, ⟨shown, last⟩, unread⟩ := endsWell
  refine ⟨unbroken, ⟨events ++ shown, ?_⟩, unread⟩
  rw [Transcript.after, last, List.append_assoc]

theorem converseFrom_endsWell {state : State} {inputs : List Input}
    (showable : ∀ text ∈ submissions state inputs, ¬ LeavesUnshowable settings text) :
    (converseFrom settings state inputs).EndsWell (unreadAfter state inputs) := by
  induction inputs generalizing state with
  | nil => exact ⟨rfl, ⟨[.asked state.prompt], rfl⟩, rfl⟩
  | cons input rest inductionHypothesis =>
    rw [converseFrom_cons, unreadAfter]
    rw [submissions] at showable
    refine Transcript.EndsWell.after ?_ _
    cases left : state.isLeft input with
    | true =>
      rw [react_of_isLeft left]
      exact ⟨rfl, ⟨[], rfl⟩, rfl⟩
    | false =>
      rw [left] at showable
      obtain ⟨first, later⟩ := List.forall_mem_append.1 showable
      rw [follow, next_of_showable left first]
      exact (inductionHypothesis later).after _

theorem breakdown_converseFrom {state : State} {inputs : List Input}
    (unshowable : ∃ text ∈ submissions state inputs, LeavesUnshowable settings text) :
    (converseFrom settings state inputs).breakdown = some .unprintable := by
  induction inputs generalizing state with
  | nil =>
    obtain ⟨_, none, -⟩ := unshowable
    cases none
  | cons input rest inductionHypothesis =>
    obtain ⟨text, member, leaves⟩ := unshowable
    rw [submissions] at member
    cases left : state.isLeft input with
    | true =>
      rw [left] at member
      cases member
    | false =>
      rw [left] at member
      rw [converseFrom_cons, follow]
      by_cases first : ∃ text ∈ (state.submission? input).toList, LeavesUnshowable settings text
      · obtain ⟨text, submitted, leaves⟩ := first
        rw [react_of_submission (Option.mem_toList.1 submitted),
          submit_next_of_leavesUnshowable leaves]
        rfl
      · have showable : ∀ text ∈ (state.submission? input).toList,
            ¬ LeavesUnshowable settings text := fun text submitted leaves =>
          first ⟨text, submitted, leaves⟩
        rw [next_of_showable left showable]
        obtain submitted | later := List.mem_append.1 member
        · exact absurd leaves (showable text submitted)
        · exact inductionHypothesis ⟨text, later, leaves⟩

theorem breakdown_converse {inputs : List Input}
    (unshowable : ∃ text ∈ submissions .ready inputs, LeavesUnshowable settings text) :
    (converse settings inputs).breakdown = some .unprintable :=
  breakdown_converseFrom unshowable

/-- Without a program that leaves a number too long for the display, a conversation always ends
well, whatever the user types and whatever goes wrong in the programs. With one it breaks down.

Here definitions may be nested in one another as deep as a text has them. A bound on the depth of
recursion, such as a machine sets to a reader that calls itself for every definition inside another
one, is left aside. -/
theorem converse_endsWell_iff (settings : Settings) (inputs : List Input) :
    ((converse settings inputs).EndsWell (unreadAfter .ready inputs) ↔
      ∀ text ∈ submissions .ready inputs, ¬ LeavesUnshowable settings text) ∧
    ((∃ text ∈ submissions .ready inputs, LeavesUnshowable settings text) →
      (converse settings inputs).breakdown = some .unprintable) := by
  refine ⟨⟨fun endsWell text member leaves => ?_, fun showable => ?_⟩, breakdown_converse⟩
  · have broken := breakdown_converse ⟨text, member, leaves⟩
    rw [endsWell.unbroken] at broken
    cases broken
  · exact (converseFrom_endsWell showable).after welcome

/-! ### A conversation that breaks down -/

/-- The tokens that replace the value on top of the stack by its square. -/
def squaring : List Token :=
  [.operation .duplicate [], .operation .multiply []]

/-- Squaring an integer again and again raises it to a power of two. -/
theorem stack_run_squarings (limit value : Int) (count : Nat) (workspace : Workspace)
    (stack : workspace.stack = .ofList [.int value]) :
    (Machine.run limit ⟨[(List.replicate count squaring).flatten], workspace⟩).workspace.stack =
      .ofList [.int (value ^ 2 ^ count)] := by
  induction count generalizing value workspace with
  | zero =>
    rw [List.replicate_zero, List.flatten_nil, (Machine.Transition.leave [] workspace).run_eq,
      Machine.run_nil, stack, pow_zero, pow_one]
  | succ count inductionHypothesis =>
    have duplicated : workspace.stack.execute .duplicate [] =
        .ok ("", .ofList [.int value, .int value]) := by rw [stack]; rfl
    have multiplied : (Stack.ofList [.int value, .int value]).execute .multiply [] =
        .ok ("", .ofList [.int (value * value)]) := rfl
    have power : (value * value) ^ 2 ^ count = value ^ 2 ^ (count + 1) := by
      rw [← pow_two, ← pow_mul, ← pow_succ']
    let rest := (List.replicate count squaring).flatten
    let twice := workspace.afterOperation "" (.ofList [.int value, .int value])
    have first : Machine.Transition limit
        ⟨[.operation .duplicate [] :: .operation .multiply [] :: rest], workspace⟩
        ⟨[.operation .multiply [] :: rest], twice⟩ := .operate _ _ _ _ _ _ _ duplicated
    have second : Machine.Transition limit ⟨[.operation .multiply [] :: rest], twice⟩
        ⟨[rest], twice.afterOperation "" (.ofList [.int (value * value)])⟩ :=
      .operate _ _ _ _ _ _ _ multiplied
    rw [List.replicate_succ, List.flatten_cons, ← power]
    exact (congrArg (·.workspace.stack) (first.run_eq.trans second.run_eq)).trans
      (inductionHypothesis (value * value) _ rfl)

/-- A program that squares an integer until it is too long for the display. -/
theorem leavesUnshowable_of_squarings {limit value : Int} {count : Nat} {text : String}
    (parsed : parse text = .ok (.push (.int value) :: (List.replicate count squaring).flatten))
    (long : 10 ^ Number.digitLimit ≤ (value ^ 2 ^ count).natAbs) :
    LeavesUnshowable ⟨limit, true⟩ text := by
  refine ⟨rfl, _, run_of_parse_eq_ok parsed, 0, value ^ 2 ^ count, ?_, .inl (by decide), long⟩
  have pushed : Stack.empty.execute .push [.int value] = .ok ("", .ofList [.int value]) := rfl
  have stack : ((Evaluator.fresh .empty .empty limit).run
      (.push (.int value) :: (List.replicate count squaring).flatten)).1.workspace.stack =
        .ofList [.int (value ^ 2 ^ count)] := by
    rw [Evaluator.run, Evaluator.workspace_finish, Machine.start, Token.push,
      (Machine.Transition.operate _ _ _ [] _ _ _ pushed).run_eq]
    exact stack_run_squarings _ _ _ _ rfl
  simp only [Report.ofEvaluator, stack]
  rfl

/-- The number ten, squared thirteen times. -/
def manySquares : String :=
  joined ("10" :: (List.replicate 13 ["DUP", "*"]).flatten)

theorem words_manySquares :
    Text.words manySquares = "10" :: (List.replicate 13 ["DUP", "*"]).flatten := by
  rw [manySquares, joined, Text.words_intercalate (by decide) (by decide)]
  rfl

theorem parse_manySquares :
    parse manySquares = .ok (.push (.int 10) :: (List.replicate 13 squaring).flatten) := by
  have words : Text.words manySquares = Syntax.Program.words
      (.atom (.number ⟨.absent, [1, 0], by decide, by decide⟩) ::
        (List.replicate 13 [.atom (.operation ⟨"DUP", .duplicate, by decide⟩),
          .atom (.operation ⟨"*", .multiply, by decide⟩)]).flatten) := words_manySquares
  rw [parse, words]
  exact Syntax.parseWords_words _

theorem submissions_manySquares : submissions .ready [.line manySquares] = [manySquares] := by
  have star : '*' ∈ manySquares.toList := by
    have word : "*" ∈ Text.words manySquares := by
      rw [words_manySquares]
      decide
    exact Text.mem_toList_of_mem_words word (List.mem_singleton.2 rfl)
  obtain ⟨noExit, noHelp, notBlank⟩ := no_command_of_mem star (by decide) (by decide) (by decide)
  simp only [submissions, State.isLeft, State.submission?, noExit, noHelp, notBlank]
  rfl

/-- A valid program after which its stack can not be shown. -/
theorem leavesUnshowable_manySquares : LeavesUnshowable ⟨defaultLimit, true⟩ manySquares := by
  refine leavesUnshowable_of_squarings parse_manySquares ?_
  have ten : (10 : Int).natAbs = 10 := rfl
  rw [Int.natAbs_pow, ten]
  exact Nat.pow_le_pow_right (by decide) (by decide)

/-- One program without an error is enough to break a conversation. -/
theorem not_forall_endsWell :
    ¬ ∀ (settings : Settings) (inputs : List Input),
      (converse settings inputs).EndsWell (unreadAfter .ready inputs) := by
  intro always
  have submitted : manySquares ∈ submissions .ready [.line manySquares] := by
    rw [submissions_manySquares]
    exact List.mem_cons_self
  have broken := breakdown_converse ⟨manySquares, submitted, leavesUnshowable_manySquares⟩
  rw [(always _ _).unbroken] at broken
  cases broken

end Forth.Conversation
