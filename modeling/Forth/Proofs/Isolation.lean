/-
This file says that the programs of a batch do not affect each other. A batch that
is made of two batches does what the first one does and then what the second one
does on its own, unless the first one breaks down. For this the outcomes of batches
are put together by an operation of their own, of which the run of a list of
programs is the repeated application. What a batch writes is made of its events one
by one, so it is put together in the same way, whatever the writer makes of an event.

The status tells whether some program could not be read or was halted by an error.
A program that can not be read is told of among the errors, and any other only
prints. The one thing that breaks a batch down is a final stack that is to be shown
and has a number with too many digits.
-/

import Forth.CommandLine.Invocation
import Forth.Proofs.Recursion
import Forth.Proofs.Survival

namespace Forth.Batch

variable {settings : Settings} {text : String}

/-! ### One batch and then another -/

namespace Result

/-- What no programs do. -/
def nothing : Result :=
  ⟨[], .ok 0⟩

/-- What is done by some programs and then by others, which are not run if the first ones break
down. -/
def andThen (first next : Result) : Result :=
  match first.status with
  | .ok status => ⟨first.events ++ next.events, next.status.map (max status)⟩
  | .error _ => first

theorem andThen_of_ok {first : Result} {status : Nat} (returned : first.status = .ok status)
    (next : Result) :
    first.andThen next = ⟨first.events ++ next.events, next.status.map (max status)⟩ := by
  rw [andThen, returned]

theorem andThen_of_error {first : Result} {breakdown : Breakdown}
    (broken : first.status = .error breakdown) (next : Result) : first.andThen next = first := by
  rw [andThen, broken]

theorem nothing_andThen (next : Result) : nothing.andThen next = next := by
  obtain ⟨events, _ | status⟩ := next
  · rfl
  · simp [andThen, nothing, Except.map]

theorem andThen_nothing (first : Result) : first.andThen nothing = first := by
  obtain ⟨events, _ | status⟩ := first
  · rfl
  · simp [andThen, nothing, Except.map]

theorem andThen_assoc (first next last : Result) :
    (first.andThen next).andThen last = first.andThen (next.andThen last) := by
  obtain ⟨firstEvents, _ | firstStatus⟩ := first
  · rfl
  · obtain ⟨nextEvents, _ | nextStatus⟩ := next
    · rfl
    · obtain ⟨lastEvents, _ | lastStatus⟩ := last <;>
        simp [andThen, Except.map, List.append_assoc, Nat.max_assoc]

theorem status_andThen_eq_error_iff {first next : Result} {breakdown : Breakdown} :
    (first.andThen next).status = .error breakdown ↔
      first.status = .error breakdown ∨
        (∃ status, first.status = .ok status) ∧ next.status = .error breakdown := by
  obtain ⟨firstEvents, _ | firstStatus⟩ := first
  · simp [andThen]
  · obtain ⟨nextEvents, _ | nextStatus⟩ := next <;> simp [andThen, Except.map]

theorem status_andThen_eq_ok_iff {first next : Result} {status : Nat} :
    (first.andThen next).status = .ok status ↔
      ∃ firstStatus nextStatus, first.status = .ok firstStatus ∧ next.status = .ok nextStatus ∧
        max firstStatus nextStatus = status := by
  obtain ⟨firstEvents, _ | firstStatus⟩ := first
  · simp [andThen]
  · obtain ⟨nextEvents, _ | nextStatus⟩ := next <;> simp [andThen, Except.map]

end Result

theorem runPrograms_cons (text : String) (rest : List String) :
    runPrograms settings (text :: rest) =
      (runProgram settings text).andThen (runPrograms settings rest) := by
  rw [runPrograms]
  generalize runProgram settings text = first
  obtain ⟨events, _ | status⟩ := first <;> rfl

theorem runPrograms_singleton (text : String) :
    runPrograms settings [text] = runProgram settings text := by
  rw [runPrograms_cons]
  exact Result.andThen_nothing _

theorem runPrograms_append (first second : List String) :
    runPrograms settings (first ++ second) =
      (runPrograms settings first).andThen (runPrograms settings second) := by
  induction first with
  | nil => exact (Result.nothing_andThen _).symm
  | cons text rest inductionHypothesis =>
    rw [List.cons_append, runPrograms_cons, inductionHypothesis, runPrograms_cons,
      Result.andThen_assoc]

/-! ### What is written -/

namespace Result

/-- What is written in all if each event adds the text that a writer makes of it. -/
def written (write : Event → String) (result : Result) : String :=
  String.join (result.events.map write)

/-- What a batch writes to the output, with its colours or without. -/
def output (keep : Bool) : Result → String :=
  written (CommandLine.batchOutput keep)

/-- What a batch writes to the errors, with its colours or without, and with the log or without. -/
def errors (keep verbose : Bool) : Result → String :=
  written (CommandLine.batchErrors keep verbose)

theorem written_andThen (write : Event → String) {first : Result} {status : Nat}
    (returned : first.status = .ok status) (next : Result) :
    (first.andThen next).written write = first.written write ++ next.written write := by
  rw [andThen_of_ok returned, written, List.map_append, String.join_append]
  rfl

/-- If no event adds anything, nothing is written by a writer that leaves out what adds nothing. -/
theorem written_eq_empty {adds write : Event → String} {result : Result}
    (nothing : ∀ event ∈ result.events, adds event = "")
    (leavesOut : ∀ event, adds event = "" → write event = "") : result.written write = "" := by
  obtain ⟨events, status⟩ := result
  unfold written
  induction events with
  | nil => rfl
  | cons event rest inductionHypothesis =>
    obtain ⟨first, others⟩ := List.forall_mem_cons.1 nothing
    rw [List.map_cons, String.join_cons, leavesOut event first, String.empty_append]
    exact inductionHypothesis others

theorem join_map_logged (write : Event → String) {record : LogRecord}
    (silent : write (.logged record) = "") (result : Result) :
    String.join ((Event.logged record :: result.events).map write) = result.written write := by
  rw [List.map_cons, silent, String.join_cons, String.empty_append]
  rfl

end Result

/-- An event that adds nothing to the output adds nothing to it without colours either. -/
theorem batchOutput_eq_empty (keep : Bool) {event : Event} (silent : event.output = "") :
    CommandLine.batchOutput keep event = "" := by
  rw [CommandLine.batchOutput, silent]
  cases keep <;> rfl

theorem batchErrors_eq_empty (keep : Bool) {event : Event} (silent : event.errors = "") :
    CommandLine.batchErrors keep false event = "" := by
  have plain : CommandLine.batchErrors keep false event = CommandLine.batchText keep event.errors :=
    rfl
  rw [plain, silent]
  cases keep <;> rfl

/-- An invocation that runs programs writes what the batch of them writes. -/
theorem runBatch_writes (plan : CommandLine.Plan) (inColour : Bool) :
    let result := runPrograms ⟨plan.limit, plan.showStack.getD false⟩ plan.programs
    let keep := inColour && plan.coloured
    (CommandLine.runBatch plan inColour).output = result.output keep ∧
      (plan.verbose = false →
        (CommandLine.runBatch plan inColour).errors = result.errors keep false) := by
  intro result keep
  have noOutput :
      CommandLine.batchOutput keep (.logged (.running plan.programs.length)) = "" :=
    batchOutput_eq_empty keep rfl
  have noErrors :
      CommandLine.batchErrors keep false (.logged (.running plan.programs.length)) = "" :=
    batchErrors_eq_empty keep rfl
  rw [Result.output, Result.errors, ← Result.join_map_logged _ noOutput,
    ← Result.join_map_logged _ noErrors]
  simp only [CommandLine.runBatch]
  split <;> exact ⟨rfl, fun quiet => by rw [quiet]⟩

/-! ### Single programs -/

/-- Whether a program can not be read or is halted by an error. -/
def Fails (limit : Int) (text : String) : Prop :=
  (∃ failure, parse text = .error failure) ∨
    ∃ report error, run limit text = .ok report ∧ report.error = some error

/-- Whether a program leaves an integer with too many digits to be shown anywhere on its stack. -/
def LeavesUnprintable (limit : Int) (text : String) : Prop :=
  ∃ report value, run limit text = .ok report ∧ .int value ∈ report.stack ∧
    10 ^ Number.digitLimit ≤ value.natAbs

theorem mapM_text?_eq_none_iff {values : List Number} :
    values.mapM Number.text? = none ↔ ∃ value ∈ values, value.text? = none := by
  induction values with
  | nil => simp
  | cons value rest inductionHypothesis =>
    rw [List.mapM_cons]
    cases written : value.text? with
    | none => simp [written]
    | some text =>
      cases others : rest.mapM Number.text? <;> simp_all

theorem stackLine?_eq_none_iff {values : List Number} :
    stackLine? values = none ↔
      ∃ value, .int value ∈ values ∧ 10 ^ Number.digitLimit ≤ value.natAbs := by
  rw [stackLine?, Option.map_eq_none_iff, mapM_text?_eq_none_iff]
  simp only [List.mem_reverse, Number.text?_eq_none_iff]
  constructor
  · rintro ⟨_, member, value, rfl, long⟩
    exact ⟨value, member, long⟩
  · rintro ⟨value, member, long⟩
    exact ⟨_, member, value, rfl, long⟩

/-- A program that can not be read is told of among the errors, and the batch goes on. -/
theorem runProgram_of_parse_eq_error {failure : Parser.Failure}
    (refused : parse text = .error failure) :
    runProgram settings text =
      ⟨[.logged (recordOfReading text), .complained failure.diagnostic.render], .ok 1⟩ := by
  simp only [runProgram, runWithLog_of_parse_eq_error refused, List.map_cons, List.map_nil]
  rfl

/-- After the log of a program that can be read its report is presented. -/
theorem runProgram_of_parse_eq_ok {tokens : List Token} (parsed : parse text = .ok tokens) :
    let evaluator := ((Evaluator.fresh .empty .empty settings.limit).run tokens).1
    let shown := present settings (Report.ofEvaluator text tokens evaluator)
    runProgram settings text =
      ⟨(recordOfReading text :: evaluationRecords evaluator).map .logged ++ shown.events,
        shown.status⟩ := by
  simp only [runProgram, runWithLog_of_parse_eq_ok parsed]

theorem output_of_parse_eq_error {failure : Parser.Failure} (refused : parse text = .error failure) :
    ∀ event ∈ (runProgram settings text).events, event.output = "" := by
  rw [runProgram_of_parse_eq_error refused]
  exact List.forall_mem_cons.2 ⟨rfl, List.forall_mem_singleton.2 rfl⟩

theorem errors_present (report : Report) :
    ∀ event ∈ (present settings report).events, event.errors = "" := by
  unfold present
  cases settings.showStack with
  | false => exact List.forall_mem_singleton.2 rfl
  | true =>
    cases stackLine? report.stack with
    | none => exact List.forall_mem_singleton.2 rfl
    | some line => exact List.forall_mem_cons.2 ⟨rfl, List.forall_mem_singleton.2 rfl⟩

theorem errors_of_parse_eq_ok {tokens : List Token} (parsed : parse text = .ok tokens) :
    ∀ event ∈ (runProgram settings text).events, event.errors = "" := by
  rw [runProgram_of_parse_eq_ok parsed]
  intro event member
  obtain logged | shown := List.mem_append.1 member
  · obtain ⟨record, -, rfl⟩ := List.mem_map.1 logged
    rfl
  · exact errors_present _ event shown

theorem present_status_eq_error_iff {report : Report} {breakdown : Breakdown} :
    (present settings report).status = .error breakdown ↔
      breakdown = .unprintable ∧ settings.showStack = true ∧ stackLine? report.stack = none := by
  unfold present
  cases settings.showStack with
  | false => exact ⟨nofun, nofun⟩
  | true =>
    cases stackLine? report.stack with
    | none =>
      refine ⟨fun same => ⟨(Except.error.inj same).symm, rfl, rfl⟩, ?_⟩
      rintro ⟨rfl, -⟩
      rfl
    | some line => exact ⟨nofun, nofun⟩

theorem present_status_eq_ok {report : Report} {status : Nat}
    (returned : (present settings report).status = .ok status) :
    status = if report.error.isSome then 1 else 0 := by
  simp only [present] at returned
  split at returned
  next =>
    split at returned
    next => exact (Except.ok.inj returned).symm
    next => cases returned
  next => exact (Except.ok.inj returned).symm

theorem runProgram_status_eq_error_iff {breakdown : Breakdown} :
    (runProgram settings text).status = .error breakdown ↔
      breakdown = .unprintable ∧ settings.showStack = true ∧
        LeavesUnprintable settings.limit text := by
  cases parsed : parse text with
  | error failure =>
    rw [runProgram_of_parse_eq_error parsed, LeavesUnprintable, run_of_parse_eq_error parsed]
    exact ⟨nofun, fun ⟨_, _, _, _, ran, _⟩ => nomatch ran⟩
  | ok tokens =>
    rw [runProgram_of_parse_eq_ok parsed, LeavesUnprintable, run_of_parse_eq_ok parsed]
    simp only [present_status_eq_error_iff, stackLine?_eq_none_iff]
    refine and_congr_right fun _ => and_congr_right fun _ => ⟨?_, ?_⟩
    · rintro ⟨value, member, long⟩
      exact ⟨_, value, rfl, member, long⟩
    · rintro ⟨_, value, ran, member, long⟩
      cases ran
      exact ⟨value, member, long⟩

/-- Whether a status tells that something failed. -/
def Tells (status : Nat) (failed : Prop) : Prop :=
  status = 1 ∧ failed ∨ status = 0 ∧ ¬ failed

theorem Tells.max {first second : Nat} {firstFailed secondFailed : Prop}
    (tellsFirst : Tells first firstFailed) (tellsSecond : Tells second secondFailed) :
    Tells (Nat.max first second) (firstFailed ∨ secondFailed) := by
  obtain ⟨rfl, firstFailed⟩ | ⟨rfl, firstFine⟩ := tellsFirst
  · obtain ⟨rfl, -⟩ | ⟨rfl, -⟩ := tellsSecond <;> exact .inl ⟨rfl, .inl firstFailed⟩
  · obtain ⟨rfl, secondFailed⟩ | ⟨rfl, secondFine⟩ := tellsSecond
    · exact .inl ⟨rfl, .inr secondFailed⟩
    · exact .inr ⟨rfl, not_or.2 ⟨firstFine, secondFine⟩⟩

theorem tells_of_runProgram {status : Nat}
    (returned : (runProgram settings text).status = .ok status) :
    Tells status (Fails settings.limit text) := by
  cases parsed : parse text with
  | error failure =>
    rw [runProgram_of_parse_eq_error parsed] at returned
    exact .inl ⟨(Except.ok.inj returned).symm, .inl ⟨failure, parsed⟩⟩
  | ok tokens =>
    rw [runProgram_of_parse_eq_ok parsed] at returned
    rw [present_status_eq_ok returned, Fails, parsed, run_of_parse_eq_ok parsed]
    generalize Report.ofEvaluator text tokens _ = report
    cases halted : report.error with
    | none =>
      refine .inr ⟨rfl, ?_⟩
      rintro (⟨_, refused⟩ | ⟨_, error, ran, present⟩)
      · cases refused
      · cases ran
        rw [halted] at present
        cases present
    | some error => exact .inl ⟨rfl, .inr ⟨report, error, rfl, halted⟩⟩

/-! ### Whole batches -/

/-- A batch breaks down where the first program does that leaves such a number. -/
theorem runPrograms_status_eq_error_iff {programs : List String} {breakdown : Breakdown} :
    (runPrograms settings programs).status = .error breakdown ↔
      breakdown = .unprintable ∧ settings.showStack = true ∧
        ∃ text ∈ programs, LeavesUnprintable settings.limit text := by
  induction programs with
  | nil => exact ⟨nofun, fun ⟨_, _, _, member, _⟩ => nomatch member⟩
  | cons text rest inductionHypothesis =>
    rw [runPrograms_cons, Result.status_andThen_eq_error_iff, inductionHypothesis,
      runProgram_status_eq_error_iff, List.exists_mem_cons_iff]
    constructor
    · rintro (⟨same, shows, leaves⟩ | ⟨-, same, shows, leaves⟩)
      · exact ⟨same, shows, .inl leaves⟩
      · exact ⟨same, shows, .inr leaves⟩
    · rintro ⟨same, shows, leaves⟩
      cases first : (runProgram settings text).status with
      | error cause =>
        exact .inl ⟨same, shows, (runProgram_status_eq_error_iff.1 first).2.2⟩
      | ok status =>
        refine .inr ⟨⟨status, rfl⟩, same, shows, leaves.resolve_left fun here => ?_⟩
        rw [runProgram_status_eq_error_iff.2 ⟨rfl, shows, here⟩] at first
        cases first

theorem tells_of_runPrograms {programs : List String} {status : Nat}
    (returned : (runPrograms settings programs).status = .ok status) :
    Tells status (∃ text ∈ programs, Fails settings.limit text) := by
  induction programs generalizing status with
  | nil =>
    cases returned
    exact .inr ⟨rfl, fun ⟨_, member, _⟩ => nomatch member⟩
  | cons text rest inductionHypothesis =>
    rw [runPrograms_cons] at returned
    obtain ⟨first, next, firstReturned, nextReturned, rfl⟩ :=
      Result.status_andThen_eq_ok_iff.1 returned
    rw [List.exists_mem_cons_iff]
    exact (tells_of_runProgram firstReturned).max (inductionHypothesis nextReturned)

/-- Programs do not affect each other. If a batch returns, then together with further programs it does
what it does alone, and then these do what they do alone; the status is the greater one of the two. If
it breaks down, then with further programs it does the same. What is written is put together in this way
too, whatever a writer makes of each single event, and so it is with colours or without them. The status
is one if some program can not be read or is halted by an error, and zero otherwise. Of a program that
can not be read nothing is printed, and of any other nothing is told among the errors. A batch breaks
down if and only if the stack is shown and some program leaves an integer there that has too many
digits.

Here definitions may be nested in one another as deep as a text has them. A bound on the depth of
recursion, such as a machine sets to a reader that calls itself for every definition inside another
one, is left aside. -/
theorem runPrograms_isolated (settings : Settings) :
    let run := runPrograms settings
    (∀ first second status, (run first).status = .ok status →
      (run (first ++ second)).events = (run first).events ++ (run second).events ∧
      (∀ write, (run (first ++ second)).written write =
        (run first).written write ++ (run second).written write) ∧
      (∀ keep, (run (first ++ second)).output keep =
        (run first).output keep ++ (run second).output keep) ∧
      (∀ keep verbose, (run (first ++ second)).errors keep verbose =
        (run first).errors keep verbose ++ (run second).errors keep verbose) ∧
      (run (first ++ second)).status = (run second).status.map (max status)) ∧
    (∀ first second breakdown, (run first).status = .error breakdown →
      run (first ++ second) = run first) ∧
    (∀ programs status, (run programs).status = .ok status →
      Tells status (∃ text ∈ programs, Fails settings.limit text)) ∧
    (∀ text failure, parse text = .error failure →
      (∀ write, (∀ event, event.output = "" → write event = "") →
        (run [text]).written write = "") ∧
      ∀ keep, (run [text]).output keep = "") ∧
    (∀ text tokens, parse text = .ok tokens →
      (∀ write, (∀ event, event.errors = "" → write event = "") →
        (run [text]).written write = "") ∧
      ∀ keep, (run [text]).errors keep false = "") ∧
    ∀ programs breakdown, (run programs).status = .error breakdown ↔
      breakdown = .unprintable ∧ settings.showStack = true ∧
        ∃ text ∈ programs, LeavesUnprintable settings.limit text := by
  intro run
  refine ⟨fun first second status returned => ?_, fun first second breakdown broken => ?_,
    fun programs status => tells_of_runPrograms, fun text failure refused => ?_,
    fun text tokens parsed => ?_, fun programs breakdown => runPrograms_status_eq_error_iff⟩
  · have joined : run (first ++ second) = (run first).andThen (run second) :=
      runPrograms_append first second
    have written (write : Event → String) : (run (first ++ second)).written write =
        (run first).written write ++ (run second).written write := by
      rw [joined]
      exact Result.written_andThen write returned _
    refine ⟨?_, written, fun keep => written _, fun keep verbose => written _, ?_⟩
    · rw [joined, Result.andThen_of_ok returned]
    · rw [joined, Result.andThen_of_ok returned]
  · exact (runPrograms_append first second).trans (Result.andThen_of_error broken _)
  · rw [show run [text] = runProgram settings text from runPrograms_singleton text]
    have nothing : ∀ event ∈ (runProgram settings text).events, event.output = "" :=
      output_of_parse_eq_error refused
    exact ⟨fun write => Result.written_eq_empty nothing,
      fun keep => Result.written_eq_empty nothing fun _ => batchOutput_eq_empty keep⟩
  · rw [show run [text] = runProgram settings text from runPrograms_singleton text]
    have nothing : ∀ event ∈ (runProgram settings text).events, event.errors = "" :=
      errors_of_parse_eq_ok parsed
    exact ⟨fun write => Result.written_eq_empty nothing,
      fun keep => Result.written_eq_empty nothing fun _ => batchErrors_eq_empty keep⟩

/-- The program that can not be read affects the status of the batch, but not the program behind it,
and a program that breaks a batch down leaves the rest of it aside. -/
theorem runPrograms_isolated_threeKinds :
    let run := runPrograms ⟨defaultLimit, true⟩
    (run ([";"] ++ ["1 ."])).status = .ok 1 ∧ (run ([";"] ++ ["1 ."])).output true = "1\n\n" ∧
      (run ([";"] ++ ["1 ."])).errors true false = (run [";"]).errors true false ∧
      (run [Conversation.manySquares]).status = .error .unprintable ∧
      run ([Conversation.manySquares] ++ [";"]) = run [Conversation.manySquares] := by
  intro run
  have refused : parse ";" = .error (.unrecognized Syntax.closingWord) :=
    Syntax.parseWords_append_of_refused [] (.unrecognized Syntax.closingWord []
      Syntax.atomToken?_closingWord (by decide)) (List.cons_ne_nil _ _)
  have parsed : parse "1 ." = .ok [.push (.int 1), .operation .pop []] :=
    Syntax.parseWords_words [.atom (.number ⟨.absent, [1], by decide, by decide⟩),
      .atom (.operation ⟨".", .pop, by decide⟩)]
  have finished : (Machine.start [.push (.int 1), .operation .pop []]
      (.fresh .empty .empty)).runWithin defaultLimit 10 =
        some ⟨⟨.empty, .empty, ["1"], []⟩, none⟩ := rfl
  have unreadable : (run [";"]).status = .ok 1 := by
    rw [show run [";"] = _ from runPrograms_singleton ";", runProgram_of_parse_eq_error refused]
  have readable : run ["1 ."] =
      ⟨[.logged (recordOfReading "1 ."), .printed "1", .printed ""], .ok 0⟩ := by
    rw [show run ["1 ."] = _ from runPrograms_singleton "1 .", runProgram_of_parse_eq_ok parsed,
      Evaluator.run_fresh_of_runWithin finished]
    rfl
  obtain ⟨joined, stopped, -, silent, quiet, breaks⟩ :=
    runPrograms_isolated ⟨defaultLimit, true⟩
  obtain ⟨-, -, output, errors, status⟩ := joined [";"] ["1 ."] 1 unreadable
  obtain ⟨-, report, ran, index, value, place, -, long⟩ := Conversation.leavesUnshowable_manySquares
  have broken : (run [Conversation.manySquares]).status = .error .unprintable :=
    (breaks _ _).2 ⟨rfl, rfl, Conversation.manySquares, List.mem_singleton.2 rfl, report, value,
      ran, List.mem_of_getElem? place, long⟩
  refine ⟨status.trans ?_, (output true).trans ?_, (errors true false).trans ?_, broken,
    stopped _ [";"] _ broken⟩
  · exact congrArg (fun result => result.status.map (max 1)) readable
  · rw [(silent ";" _ refused).2 true, String.empty_append]
    exact (congrArg (Result.output true) readable).trans rfl
  · rw [(quiet "1 ." _ parsed).2 true, String.append_empty]

end Forth.Batch
