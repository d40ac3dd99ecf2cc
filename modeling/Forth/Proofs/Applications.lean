/-
This file observes how parsers are applied inside one another. The application of
a parser makes the applications of its parts, one after the other, and each of them
makes its own. So the applications of a run form a tree. Those that are active at
one moment are a path in it, which begins with the application that the run has
been started with.

The tree is built along with the outcome, from what comes of the applications in
it: whether an alternative is tried, where a part of a sequence begins and how often
a parser is repeated depend on what came of the applications before. The outcome is
the one that the parser has without being observed.
-/

import Forth.Proofs.Repetition

namespace Forth.Parser

/-! ### Applications inside one another -/

/-- The application of a parser to words: what comes of it, and the applications of other parsers that
are made for it, in their order. -/
structure Application where
  parser : Parser
  words : List Word
  outcome : Outcome
  inside : List Application

/-- Whether a rule is called. -/
def Application.isCall (application : Application) : Bool :=
  match application.parser with
  | .rule _ _ => true
  | _ => false

/-- Whether a parser is repeated, so that the applications inside are those of this parser. -/
def Application.isLoop (application : Application) : Bool :=
  match application.parser with
  | .repeated _ | .repeatedOnce _ | .body _ => true
  | _ => false

/-- The applications that are active at one moment, the outermost first. Each of them has been made for
the one before it. -/
inductive Active : Application → List Application → Prop where
  | innermost (application : Application) : Active application [application]
  | inside (application part : Application) (parts : List Application)
      (made : part ∈ application.inside) (active : Active part parts) :
      Active application (application :: parts)

/-- What comes of some applications one after the other, and these applications. -/
structure Account where
  outcome : Outcome
  applications : List Application

/-- The application of a parser that makes the applications that are accounted for, and answers what
comes of them. -/
def Account.toApplication (account : Account) (parser : Parser) (words : List Word) : Application :=
  ⟨parser, words, account.outcome, account.applications⟩

namespace Application

/-- An application, and what follows on its failure. -/
def orElse (application : Application) (next : Failure → Account) : Account :=
  match application.outcome with
  | .failure reason => ⟨(next reason).outcome, application :: (next reason).applications⟩
  | outcome => ⟨outcome, [application]⟩

/-- An application, and what follows on its match. -/
def andThen (application : Application) (next : Match → List Word → Account) : Account :=
  match application.outcome with
  | .success made remainder =>
    ⟨(next made remainder).outcome, application :: (next made remainder).applications⟩
  | outcome => ⟨outcome, [application]⟩

theorem outcome_orElse (application : Application) (next : Failure → Account) :
    (application.orElse next).outcome =
      application.outcome.orElse fun reason => (next reason).outcome := by
  unfold orElse
  cases application.outcome <;> rfl

theorem outcome_andThen (application : Application) (next : Match → List Word → Account) :
    (application.andThen next).outcome =
      application.outcome.andThen fun made remainder => (next made remainder).outcome := by
  unfold andThen
  cases application.outcome <;> rfl

end Application

/-! ### Observing a parser -/

/-- Repeats a parser and tells the applications of it. -/
def observeRepeated (item : List Word → Application) (finish : Except Fault Repetition → Outcome)
    (words : List Word) : Account :=
  let listed := repeatListed (fun rest => (item rest).outcome) words
  ⟨finish listed.2, listed.1.map item⟩

mutual

/-- Applies a parser to words and tells the applications that it makes. -/
def observeWith (calls : String → Nat → List Word → Account) : Parser → List Word → Account
  | .terminal reader, words => ⟨reader.apply words, []⟩
  | .undescribed, _ => ⟨.fault .undescribed, []⟩
  | .undescribedWord, [] => ⟨.failure (.ended "a word"), []⟩
  | .undescribedWord, _ :: _ => ⟨.fault .undescribed, []⟩
  | .any first others, words =>
    ((observeWith calls first words).toApplication first words).orElse fun last =>
      observeAny calls last others words
  | .sequence parts, words => observeSequence calls [] parts words
  | .repeated item, words =>
    observeRepeated (fun rest => (observeWith calls item rest).toApplication item rest)
      (repetitionOutcome Repetition.outcome) words
  | .repeatedOnce item, words =>
    observeRepeated (fun rest => (observeWith calls item rest).toApplication item rest)
      (repetitionOutcome Repetition.outcomeOnce) words
  | .body item, words =>
    observeRepeated (fun rest => (observeWith calls item rest).toApplication item rest)
      (fun repeated => (repetitionOutcome Repetition.outcomeOnce repeated).mapFailure bodyFailure)
      words
  | .discard item, words =>
    let part := (observeWith calls item words).toApplication item words
    ⟨part.outcome.mapMatch fun _ => .nothing, [part]⟩
  | .transform item function, words =>
    let part := (observeWith calls item words).toApplication item words
    ⟨part.outcome.mapMatch function, [part]⟩
  | .rule label index, words => calls label index words

/-- Applies the remaining alternatives of a choice and tells the applications of them. -/
def observeAny (calls : String → Nat → List Word → Account) (last : Failure) :
    List Parser → List Word → Account
  | [], _ => ⟨.failure last, []⟩
  | parser :: others, words =>
    ((observeWith calls parser words).toApplication parser words).orElse fun last =>
      observeAny calls last others words

/-- Applies the remaining parts of a sequence and tells the applications of them. -/
def observeSequence (calls : String → Nat → List Word → Account) (collected : List Match) :
    List Parser → List Word → Account
  | [], words => ⟨.success (.list collected.reverse) words, []⟩
  | part :: parts, words =>
    ((observeWith calls part words).toApplication part words).andThen fun made remainder =>
      observeSequence calls (if made.isEmpty then collected else made :: collected) parts remainder

end

/-- Calls a rule, with at most `room` more calls of rules inside this one, and tells the application of
its definition. -/
def observeCall (rules : Rules) (room : Nat) (label : String) (index : Nat) (words : List Word) :
    Account :=
  match rules.definition? index, room with
  | none, _ => ⟨.fault (.undefinedRule label), []⟩
  | some _, 0 => ⟨.fault .endless, []⟩
  | some parser, room + 1 =>
    let part := (observeWith (observeCall rules room) parser words).toApplication parser words
    ⟨part.outcome, [part]⟩

/-- The application of a parser, with at most `room` calls of rules inside one another. -/
def observe (rules : Rules) (room : Nat) (parser : Parser) (words : List Word) : Application :=
  (observeWith (observeCall rules room) parser words).toApplication parser words

section Equations

variable (rules : Rules) {room : Nat} (item : Parser) (words : List Word)

theorem observeWith_repeated :
    observeWith (observeCall rules room) (.repeated item) words =
      observeRepeated (observe rules room item) (repetitionOutcome Repetition.outcome) words := by
  rw [observeWith]
  rfl

theorem observeWith_repeatedOnce :
    observeWith (observeCall rules room) (.repeatedOnce item) words =
      observeRepeated (observe rules room item) (repetitionOutcome Repetition.outcomeOnce)
        words := by
  rw [observeWith]
  rfl

theorem observeWith_body :
    observeWith (observeCall rules room) (.body item) words =
      observeRepeated (observe rules room item) (fun repeated =>
        (repetitionOutcome Repetition.outcomeOnce repeated).mapFailure bodyFailure) words := by
  rw [observeWith]
  rfl

end Equations

/-- The call of a rule that has a definition makes the application of it. -/
theorem observeCall_succ {rules : Rules} {index : Nat} {parser : Parser}
    (found : rules.definition? index = some parser) (room : Nat) (label : String)
    (words : List Word) :
    observeCall rules (room + 1) label index words =
      ⟨(observe rules room parser words).outcome, [observe rules room parser words]⟩ := by
  unfold observeCall
  rw [found]
  rfl

/-! ### Outcomes do not depend on being observed -/

section Outcomes

variable (calls : String → Nat → List Word → Account)

/-- What comes of calls, without the applications that they make. -/
def outcomeOf (label : String) (index : Nat) (words : List Word) : Outcome :=
  (calls label index words).outcome

theorem outcome_observeRepeated {item : List Word → Application} {itemToo : List Word → Outcome}
    (same : ∀ words, (item words).outcome = itemToo words)
    (finish : Except Fault Repetition → Outcome) (words : List Word) :
    (observeRepeated item finish words).outcome = finish (repeatWith itemToo words) := by
  rw [← funext same, ← repeatListed_snd]
  rfl

mutual

theorem outcome_observeWith : ∀ (parser : Parser) (words : List Word),
    (observeWith calls parser words).outcome = applyWith (outcomeOf calls) parser words
  | .terminal _, _ => by rw [observeWith, applyWith]
  | .undescribed, _ => by rw [observeWith, applyWith]
  | .undescribedWord, [] => by rw [observeWith, applyWith]
  | .undescribedWord, _ :: _ => by rw [observeWith, applyWith]
  | .any first others, words => by
    rw [observeWith, applyWith_any, Application.outcome_orElse, ← outcome_observeWith first words]
    simp only [← outcome_observeAny _ others words]
    rfl
  | .sequence parts, words => by
    rw [observeWith, applyWith, outcome_observeSequence [] parts words]
  | .repeated item, words => by
    rw [observeWith, applyWith]
    exact outcome_observeRepeated (outcome_observeWith item) _ words
  | .repeatedOnce item, words => by
    rw [observeWith, applyWith]
    exact outcome_observeRepeated (outcome_observeWith item) _ words
  | .body item, words => by
    rw [observeWith, applyWith]
    exact outcome_observeRepeated (outcome_observeWith item)
      (fun repeated => (repetitionOutcome Repetition.outcomeOnce repeated).mapFailure bodyFailure)
      words
  | .discard item, words => by
    rw [observeWith, applyWith, ← outcome_observeWith item words]
    rfl
  | .transform item function, words => by
    rw [observeWith, applyWith, ← outcome_observeWith item words]
    rfl
  | .rule _ _, _ => by
    rw [observeWith, applyWith]
    rfl

theorem outcome_observeAny (last : Failure) : ∀ (others : List Parser) (words : List Word),
    (observeAny calls last others words).outcome =
      applyAny (outcomeOf calls) last others words
  | [], _ => by rw [observeAny, applyAny]
  | parser :: others, words => by
    rw [observeAny, applyAny_cons, Application.outcome_orElse, ← outcome_observeWith parser words]
    simp only [← outcome_observeAny _ others words]
    rfl

theorem outcome_observeSequence (collected : List Match) :
    ∀ (parts : List Parser) (words : List Word),
      (observeSequence calls collected parts words).outcome =
        applySequence (outcomeOf calls) collected parts words
  | [], _ => by rw [observeSequence, applySequence]
  | part :: parts, words => by
    rw [observeSequence, applySequence_cons, Application.outcome_andThen,
      ← outcome_observeWith part words]
    simp only [← outcome_observeSequence _ parts]
    rfl

end

end Outcomes

theorem outcome_observeCall (rules : Rules) (room : Nat) :
    outcomeOf (observeCall rules room) = callRule rules room := by
  induction room with
  | zero =>
    funext label index words
    unfold outcomeOf observeCall callRule
    cases rules.definition? index <;> rfl
  | succ room inductionHypothesis =>
    funext label index words
    unfold outcomeOf observeCall callRule
    cases rules.definition? index with
    | none => rfl
    | some parser =>
      show (observeWith (observeCall rules room) parser words).outcome =
        applyWith (callRule rules room) parser words
      rw [← inductionHypothesis, outcome_observeWith]

/-- The outcome of a parser is the same when its applications are observed. -/
theorem outcome_observe (rules : Rules) (room : Nat) (parser : Parser) (words : List Word) :
    (observe rules room parser words).outcome = applyWithin rules room parser words := by
  show (observeWith (observeCall rules room) parser words).outcome =
    applyWith (callRule rules room) parser words
  rw [outcome_observeWith, outcome_observeCall]

/-- If there is an answer with some room, it is the answer that the parser has. -/
theorem outcome_observe_eq_apply {rules : Rules} {room : Nat} {parser : Parser} {words : List Word}
    (returns : (observe rules room parser words).outcome.Returns) :
    (observe rules room parser words).outcome = apply rules parser words := by
  rw [outcome_observe] at returns ⊢
  exact (applyWithin_sufficientRoom List.suffix_rfl returns).symm

end Forth.Parser
