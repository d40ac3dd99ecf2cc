/-
This file says what a stack is to those who use it: a list of values, top first, or
nothing any more once it was closed. Every operation rewrites the upper end of the
list in its own way, or it is refused and the list is as it was. `ListStep` lists what
can happen when something is asked of such a list, and nothing else can happen.

The main statement is about any number of requests, one after the other. The stack
gives the only answers that the list allows and is left with the same values, and so
it is with the array in which the values are stored the other way round.
-/

import Forth.Proofs.Storage

namespace Forth

/-! ### Operations as rewriting -/

/-- How an operation rewrites a list of values, top first, and what it prints. -/
inductive Opcode.Rewrites : Opcode → List Number → List Number → String → List Number → Prop where
  | push (value : Number) (others values : List Number) :
      Rewrites .push (value :: others) values "" (value :: values)
  | pop (arguments : List Number) (top : Number) (rest : List Number) (text : String)
      (written : top.text? = some text) : Rewrites .pop arguments (top :: rest) text rest
  | combine (opcode : Opcode) (operation : Number → Number → Option Number)
      (arguments : List Number) (top second result : Number) (rest : List Number)
      (arithmetic : opcode.arithmetic? = some operation)
      (divisible : opcode = .divide → second.isZero = false)
      (computed : operation top second = some result) :
      Rewrites opcode arguments (top :: second :: rest) "" (result :: rest)
  | duplicate (arguments : List Number) (top : Number) (rest : List Number) :
      Rewrites .duplicate arguments (top :: rest) "" (top :: top :: rest)
  | drop (arguments : List Number) (top : Number) (rest : List Number) :
      Rewrites .drop arguments (top :: rest) "" rest
  | swap (arguments : List Number) (top second : Number) (rest : List Number) :
      Rewrites .swap arguments (top :: second :: rest) "" (second :: top :: rest)
  | over (arguments : List Number) (top second : Number) (rest : List Number) :
      Rewrites .over arguments (top :: second :: rest) "" (second :: top :: second :: rest)

/-- Arithmetic that has a result puts it in the place of the two values on top. -/
theorem Opcode.rewrites_of_ofResult {opcode : Opcode}
    {operation : Number → Number → Option Number} {top second : Number}
    {arguments rest next : List Number} {text : String}
    (arithmetic : opcode.arithmetic? = some operation)
    (divisible : opcode = .divide → second.isZero = false)
    (performed : Effect.ofResult (operation top second) rest = .ok ⟨text, next⟩) :
    opcode.Rewrites arguments (top :: second :: rest) text next := by
  cases computed : operation top second with
  | none =>
    rw [computed] at performed
    cases performed
  | some result =>
    rw [computed] at performed
    cases performed
    exact .combine opcode operation arguments top second result rest arithmetic divisible computed

/-- An operation has an effect if and only if it rewrites the list in this way. -/
theorem Opcode.rewrites_iff {opcode : Opcode} {arguments values next : List Number}
    {text : String} :
    opcode.Rewrites arguments values text next ↔
      opcode.effect arguments values = .ok ⟨text, next⟩ := by
  constructor
  · intro rewrites
    cases rewrites with
    | pop _ top rest _ written => rw [effect, written]
    | combine _ operation _ top second result rest arithmetic divisible computed =>
      cases opcode with
      | add | subtract | multiply =>
        cases arithmetic
        rw [effect, computed]
        rfl
      | divide =>
        cases arithmetic
        rw [effect, divisible rfl, computed]
        rfl
      | _ => cases arithmetic
    | _ => rfl
  · intro performed
    unfold effect at performed
    split at performed
    next =>
      cases arguments with
      | nil => cases performed
      | cons value others =>
        cases performed
        exact .push value others values
    next top rest =>
      cases written : top.text? with
      | none =>
        rw [written] at performed
        cases performed
      | some output =>
        rw [written] at performed
        cases performed
        exact .pop arguments top _ _ written
    next top left =>
      cases performed
      exact .duplicate arguments top _
    next top left =>
      cases performed
      exact .drop arguments top _
    next => exact rewrites_of_ofResult rfl (fun division => by cases division) performed
    next => exact rewrites_of_ofResult rfl (fun division => by cases division) performed
    next => exact rewrites_of_ofResult rfl (fun division => by cases division) performed
    next top second rest =>
      split at performed
      next => cases performed
      next notZero =>
        exact rewrites_of_ofResult rfl (fun _ => Bool.eq_false_iff.2 notZero) performed
    next top second rest =>
      cases performed
      exact .swap arguments top second rest
    next top second rest =>
      cases performed
      exact .over arguments top second rest
    next => cases performed

/-- What an operation comes to on a list of values: what it prints, or why it is not performed, and
the list after it. -/
inductive Opcode.OnList (opcode : Opcode) (arguments values : List Number) :
    Except Fault String → List Number → Prop where
  /-- The list is rewritten. -/
  | operated (text : String) (next : List Number)
      (rewrites : opcode.Rewrites arguments values text next) :
      OnList opcode arguments values (.ok text) next
  /-- The operation does not pass the check. -/
  | refused (error : RuntimeError) (checked : opcode.check values = some error) :
      OnList opcode arguments values (.error (.halt error)) values
  /-- An accident breaks the operation off midway. The list is as it was. -/
  | brokenOff (accident : Accident) (fault : Fault) (checked : opcode.check values = none)
      (suffers : opcode.Suffers arguments values accident)
      (told : accident.fault? = some fault) :
      OnList opcode arguments values (.error fault) values

/-- An accident after the check is told, and it is what the operation fails with. -/
theorem Opcode.exists_told_of_suffers {opcode : Opcode} {arguments values : List Number}
    {accident : Accident} (checked : opcode.check values = none)
    (suffers : opcode.Suffers arguments values accident) :
    ∃ fault, accident.fault? = some fault ∧ opcode.effect arguments values = .error fault := by
  obtain ⟨handled, failed⟩ | ⟨rfl, rfl, failed⟩ := effect_of_suffers checked suffers
  · cases accident with
    | overflow | tooManyDigits => exact ⟨_, rfl, failed⟩
    | _ => cases handled
  · cases suffers with
    | missingValue _ _ _ few => exact absurd few (Nat.not_lt_zero _)
    | missingArgument => exact ⟨_, rfl, failed⟩
    | overflow _ _ _ _ _ _ arithmetic => cases arithmetic

/-- What an operation comes to on a list is how a stack with these values answers. -/
theorem Opcode.onList_iff {opcode : Opcode} {arguments values next : List Number}
    {outcome : Except Fault String} :
    opcode.OnList arguments values outcome next ↔
      (Stack.ofList values).answerOperation opcode arguments =
        (outcome.map .text, .ofList next) := by
  rw [Stack.answerOperation_ofList]
  constructor
  · intro onList
    cases onList with
    | operated text next rewrites =>
      rw [rewrites_iff.1 rewrites]
      rfl
    | refused error checked =>
      rw [effect_of_check_eq_some checked]
      rfl
    | brokenOff accident fault checked suffers told =>
      obtain ⟨_, again, failed⟩ := exists_told_of_suffers checked suffers
      rw [failed, Option.some.inj (told.symm.trans again)]
      rfl
  · intro answered
    cases performed : opcode.effect arguments values with
    | ok effect =>
      rw [performed] at answered
      obtain ⟨printed, left⟩ := Prod.mk.inj answered
      cases left
      cases outcome with
      | error fault => cases printed
      | ok text =>
        cases printed
        exact .operated effect.output effect.values (rewrites_iff.2 performed)
    | error fault =>
      rw [performed] at answered
      obtain ⟨printed, left⟩ := Prod.mk.inj answered
      cases left
      cases outcome with
      | ok text => cases printed
      | error other =>
        cases printed
        cases checked : opcode.check values with
        | some error =>
          rw [effect_of_check_eq_some checked] at performed
          cases performed
          exact .refused error checked
        | none =>
          obtain ⟨accident, suffers⟩ := exists_suffers_of_effect performed
          obtain ⟨_, told, failed⟩ := exists_told_of_suffers checked suffers
          rw [performed] at failed
          cases failed
          exact .brokenOff accident fault checked suffers told

theorem Opcode.exists_onList (opcode : Opcode) (arguments values : List Number) :
    ∃ outcome next, opcode.OnList arguments values outcome next := by
  cases performed : opcode.effect arguments values with
  | ok effect =>
    refine ⟨.ok effect.output, effect.values, onList_iff.2 ?_⟩
    rw [Stack.answerOperation_ofList, performed]
    rfl
  | error fault =>
    refine ⟨.error fault, values, onList_iff.2 ?_⟩
    rw [Stack.answerOperation_ofList, performed]
    rfl

/-! ### Requests -/

namespace Stack.Request

/-- The operation that is asked for, with its arguments, if it is one. -/
def operation? : Request → Option (Opcode × List Number)
  | .execute opcode arguments => some (opcode, arguments)
  | .call opcode arguments => some (opcode, arguments.toList)
  | _ => none

/-- The answer after the stack was closed. -/
def whenClosed : Request → Except Fault Answer
  | .execute _ _ | .call _ _ | .values => .error (.halt .stackClosed)
  | .length => .ok (.length 0)
  | .isClosed => .ok (.truth true)
  | .close => .ok .nothing
  | .leave => .ok (.truth true)

end Stack.Request

/-- What can happen when something is asked of a list of values, top first, or of nothing after it was
closed. -/
inductive ListStep : Option (List Number) → Stack.Request → Except Fault Stack.Answer →
    Option (List Number) → Prop where
  | operate (request : Stack.Request) (opcode : Opcode) (arguments values next : List Number)
      (outcome : Except Fault String) (asked : request.operation? = some (opcode, arguments))
      (onList : opcode.OnList arguments values outcome next) :
      ListStep (some values) request (outcome.map .text) (some next)
  | values (values : List Number) :
      ListStep (some values) .values (.ok (.values values)) (some values)
  | length (values : List Number) :
      ListStep (some values) .length (.ok (.length values.length)) (some values)
  | isClosed (values : List Number) :
      ListStep (some values) .isClosed (.ok (.truth false)) (some values)
  | close (values : List Number) : ListStep (some values) .close (.ok .nothing) none
  | leave (values : List Number) : ListStep (some values) .leave (.ok (.truth true)) none
  /-- What was closed stays closed. -/
  | closed (request : Stack.Request) : ListStep none request request.whenClosed none

theorem Stack.perform_closed (request : Request) :
    closed.perform request = (request.whenClosed, closed) := by
  cases request <;> rfl

theorem Stack.perform_of_operation? {request : Request} {opcode : Opcode} {arguments : List Number}
    (asked : request.operation? = some (opcode, arguments)) (values : List Number) :
    (ofList values).perform request = (ofList values).answerOperation opcode arguments := by
  cases request with
  | execute other numbers | call other numbers =>
    cases asked
    rfl
  | _ => cases asked

/-- What can happen to the list is what the stack does, and nothing else. -/
theorem listStep_iff {contents next : Option (List Number)} {request : Stack.Request}
    {answer : Except Fault Stack.Answer} :
    ListStep contents request answer next ↔ (Stack.mk contents).perform request = (answer, ⟨next⟩) := by
  constructor
  · intro step
    cases step with
    | operate _ opcode arguments values next outcome asked onList =>
      exact (Stack.perform_of_operation? asked values).trans (Opcode.onList_iff.1 onList)
    | closed => exact Stack.perform_closed request
    | _ => rfl
  · intro performed
    cases contents with
    | none =>
      cases (Stack.perform_closed request).symm.trans performed
      exact .closed request
    | some values =>
      cases asked : request.operation? with
      | some operation =>
        obtain ⟨opcode, arguments⟩ := operation
        obtain ⟨outcome, left, onList⟩ := opcode.exists_onList arguments values
        have answered := (Stack.perform_of_operation? asked values).trans (Opcode.onList_iff.1 onList)
        cases answered.symm.trans performed
        exact .operate request opcode arguments values left outcome asked onList
      | none =>
        cases request with
        | execute | call => cases asked
        | values =>
          cases performed
          exact .values values
        | length =>
          cases performed
          exact .length values
        | isClosed =>
          cases performed
          exact .isClosed values
        | close =>
          cases performed
          exact .close values
        | leave =>
          cases performed
          exact .leave values

/-! ### One request after another -/

/-- The answers to one request after another, and what is left after all of them. -/
def performAll {State Request Answer : Type} (perform : State → Request → Answer × State)
    (state : State) : List Request → List Answer × State
  | [] => ([], state)
  | request :: rest =>
    let (answer, next) := perform state request
    let (answers, last) := performAll perform next rest
    (answer :: answers, last)

/-- If one system represents another and answers each request as a view of its answer, it does so for
all requests together. -/
theorem performAll_of_perform {State Other Request Answer View : Type}
    {perform : State → Request → Answer × State} {other : Other → Request → View × Other}
    (represent : State → Other) (view : Answer → View)
    (represents : ∀ state request, other (represent state) request =
      (view (perform state request).1, represent (perform state request).2))
    (state : State) (requests : List Request) :
    performAll other (represent state) requests =
      ((performAll perform state requests).1.map view,
        represent (performAll perform state requests).2) := by
  induction requests generalizing state with
  | nil => rfl
  | cons request rest inductionHypothesis =>
    simp only [performAll, represents, inductionHypothesis, List.map_cons]

/-- What can happen to a list when one request follows another: the answers, and what is left. -/
inductive ListRun : Option (List Number) → List Stack.Request →
    List (Except Fault Stack.Answer) → Option (List Number) → Prop where
  | done (contents : Option (List Number)) : ListRun contents [] [] contents
  | next (contents between last : Option (List Number)) (request : Stack.Request)
      (requests : List Stack.Request) (answer : Except Fault Stack.Answer)
      (answers : List (Except Fault Stack.Answer))
      (step : ListStep contents request answer between)
      (rest : ListRun between requests answers last) :
      ListRun contents (request :: requests) (answer :: answers) last

theorem listRun_iff {contents last : Option (List Number)} {requests : List Stack.Request}
    {answers : List (Except Fault Stack.Answer)} :
    ListRun contents requests answers last ↔
      performAll Stack.perform ⟨contents⟩ requests = (answers, ⟨last⟩) := by
  constructor
  · intro run
    induction run with
    | done contents => rfl
    | next contents between last request requests answer answers step rest inductionHypothesis =>
      simp only [performAll, listStep_iff.1 step, inductionHypothesis]
  · intro performed
    induction requests generalizing contents answers with
    | nil =>
      cases performed
      exact .done _
    | cons request requests inductionHypothesis =>
      cases stepped : Stack.perform ⟨contents⟩ request with
      | mk answer between =>
        -- What the first request leaves is what the others are asked of.
        cases others : performAll Stack.perform between requests with
        | mk later left =>
          simp only [performAll, stepped, others] at performed
          cases performed
          exact .next contents between.contents? last request requests answer later
            (listStep_iff.2 stepped) (inductionHypothesis others)

/-! ### Closing -/

theorem ListStep.eq_none_iff {values : List Number} {next : Option (List Number)}
    {request : Stack.Request} {answer : Except Fault Stack.Answer}
    (step : ListStep (some values) request answer next) :
    next = none ↔ request = .close ∨ request = .leave := by
  cases step with
  | operate request opcode arguments values next outcome asked onList =>
    refine ⟨nofun, ?_⟩
    rintro (rfl | rfl) <;> cases asked
  | close | leave => simp
  | _ => exact ⟨nofun, nofun⟩

theorem Stack.performAll_closed (requests : List Request) :
    performAll perform closed requests = (requests.map Request.whenClosed, closed) := by
  induction requests with
  | nil => rfl
  | cons request rest inductionHypothesis =>
    simp only [performAll, perform_closed, inductionHypothesis, List.map_cons]

/-- Nothing is left at the end if and only if some request closed the list. -/
theorem ListRun.eq_none_iff {values : List Number} {last : Option (List Number)}
    {requests : List Stack.Request} {answers : List (Except Fault Stack.Answer)}
    (run : ListRun (some values) requests answers last) :
    last = none ↔ .close ∈ requests ∨ .leave ∈ requests := by
  induction requests generalizing values answers with
  | nil =>
    cases run
    simp
  | cons request requests inductionHypothesis =>
    cases run with
    | next _ between _ _ _ answer answers step rest =>
      have closes := step.eq_none_iff
      cases between with
      | none =>
        -- The first request closed the list, and no other can open it again.
        have closed := (Stack.performAll_closed requests).symm.trans (listRun_iff.1 rest)
        cases closed
        obtain rfl | rfl := closes.1 rfl <;> simp
      | some left =>
        have goesOn : request ≠ .close ∧ request ≠ .leave :=
          ⟨fun ends => (nomatch closes.2 (.inl ends)), fun ends => (nomatch closes.2 (.inr ends))⟩
        rw [inductionHypothesis rest, List.mem_cons, List.mem_cons]
        simp [goesOn.1.symm, goesOn.2.symm]

/-- Whatever is asked of a stack with some values, one request after the other, there is only one way
in which a list of these values, top first, can be asked the same, and it is the way of the stack. At
the end the stack shows the values of the list and their number. Nothing is left of it if and only if
it was closed on the way, and then every further request finds it closed. The storage of the stack
gives the same answers, none of its accidents goes unhandled, and it holds the same values. -/
theorem Stack.performAll_iff_listRun (initial : List Number) (requests : List Request) :
    let run := performAll perform (.ofList initial) requests
    ∃ contents,
      (∀ answers last, ListRun (some initial) requests answers last ↔
        answers = run.1 ∧ last = contents) ∧
      run.2.values = contents.elim (.error .stackClosed) .ok ∧
      run.2.length = contents.elim 0 List.length ∧
      (contents = none ↔ .close ∈ requests ∨ .leave ∈ requests) ∧
      (contents = none → ∀ later,
        performAll perform run.2 later = (later.map Request.whenClosed, run.2)) ∧
      performAll Storage.perform (.ofList initial) requests = (run.1.map .ok, run.2.stored) := by
  intro run
  have follows : ListRun (some initial) requests run.1 run.2.contents? := listRun_iff.2 rfl
  refine ⟨run.2.contents?, fun answers last => ?_, ?_, ?_, follows.eq_none_iff, ?_, ?_⟩
  · rw [listRun_iff, Prod.ext_iff]
    exact ⟨fun ⟨answered, left⟩ => ⟨answered.symm, congrArg Stack.contents? left.symm⟩,
      fun ⟨answered, left⟩ => ⟨answered.symm, congrArg Stack.mk left.symm⟩⟩
  · generalize run.2 = stack
    obtain ⟨_ | values⟩ := stack <;> rfl
  · generalize run.2 = stack
    obtain ⟨_ | values⟩ := stack <;> rfl
  · intro nothing later
    rw [show run.2 = closed from congrArg Stack.mk nothing]
    exact performAll_closed later
  · exact performAll_of_perform stored Except.ok perform_stored (.ofList initial) requests

/-- A push without a number is broken off and leaves the two values alone, which were swapped before.
After the stack was left, a push with a number is refused. -/
theorem Stack.performAll_iff_listRun_leave :
    let requests : List Request :=
      [.call .swap #v[], .execute .push [], .call .over #v[], .values, .leave]
    let run := performAll perform (.ofList [.int 1, .int 2]) requests
    run.1 = [.ok (.text ""), .error (.misuse .missingArgument), .ok (.text ""),
      .ok (.values [.int 1, .int 2, .int 1]), .ok (.truth true)] ∧
    performAll perform run.2 [.call .push #v[.int 5], .length, .close] =
      ([.error (.halt .stackClosed), .ok (.length 0), .ok .nothing], run.2) := by
  intro requests run
  obtain ⟨contents, -, -, -, closes, closed, -⟩ :=
    performAll_iff_listRun [.int 1, .int 2] requests
  have left : Request.leave ∈ requests := by simp [requests]
  exact ⟨rfl, closed (closes.2 (.inr left)) _⟩

end Forth
