/-
This file takes the performance of an operation apart. An operation that is
performed as it is can meet with an accident: it takes a value from a stack that
has none, it divides by zero, or its result has no representation. `check` is
what is looked at before, and `Suffers` lists every accident together with the
values on which it happens, whatever has been checked.

The main statements are that an operation fails only by an accident, and that after
the check only those accidents are left that are told as a number which is too large,
and a push that has nothing to push.
-/

import Forth.Stack

namespace Forth

/-! ### Accidents -/

/-- What can go wrong in performing an operation on some values. -/
inductive Accident where
  /-- A value is taken where there is none. -/
  | missingValue
  /-- There is no number to push. -/
  | missingArgument
  | zeroDivisor
  /-- An integer, or a quotient of integers, is beyond all floating point numbers. -/
  | overflow
  /-- An integer has too many digits for a text. -/
  | tooManyDigits
  deriving DecidableEq, Repr

/-- Whether an accident is told as a number that is too large. All others would go unhandled. -/
def Accident.isHandled : Accident → Bool
  | .overflow | .tooManyDigits => true
  | .missingValue | .missingArgument | .zeroDivisor => false

namespace Opcode

/-- The arithmetic of an operation, for those that do arithmetic. -/
def arithmetic? : Opcode → Option (Number → Number → Option Number)
  | .add => some Number.add?
  | .subtract => some Number.subtract?
  | .multiply => some Number.multiply?
  | .divide => some Number.divide?
  | .push | .pop | .duplicate | .drop | .swap | .over => none

/-- What an operation that is not checked can suffer. -/
inductive Suffers : Opcode → List Number → List Number → Accident → Prop where
  | missingValue (opcode : Opcode) (arguments values : List Number)
      (few : values.length < opcode.arity) : Suffers opcode arguments values .missingValue
  | missingArgument (values : List Number) : Suffers .push [] values .missingArgument
  | zeroDivisor (arguments : List Number) (top second : Number) (rest : List Number)
      (zero : second.isZero = true) : Suffers .divide arguments (top :: second :: rest) .zeroDivisor
  | overflow (opcode : Opcode) (operation : Number → Number → Option Number)
      (arguments : List Number) (top second : Number) (rest : List Number)
      (arithmetic : opcode.arithmetic? = some operation) (beyond : operation top second = none) :
      Suffers opcode arguments (top :: second :: rest) .overflow
  | tooManyDigits (arguments : List Number) (top : Number) (rest : List Number)
      (unwritable : top.text? = none) : Suffers .pop arguments (top :: rest) .tooManyDigits

/-! ### The check -/

/-- What is wrong with the values of a stack before an operation is performed on them. -/
def check (opcode : Opcode) (values : List Number) : Option RuntimeError :=
  if opcode = .divide ∧ (values[1]?.any Number.isZero) = true then some .divisionByZero
  else if opcode.arity ≤ values.length then none
  else some (if opcode.arity = 1 then .stackEmpty else .notEnoughElements)

/-- An operation that takes more values than there are finds too few. -/
theorem effect_of_length_lt {opcode : Opcode} {arguments values : List Number}
    (few : values.length < opcode.arity) :
    opcode.effect arguments values =
      .error (.halt (if opcode.arity = 1 then .stackEmpty else .notEnoughElements)) := by
  match values with
  | [] => cases opcode <;> simp [arity, effect] at few ⊢
  | [_] => cases opcode <;> simp [arity, effect] at few ⊢
  | _ :: _ :: rest =>
    rw [List.length_cons, List.length_cons] at few
    cases opcode <;> simp only [arity] at few <;> omega

theorem effect_of_check_eq_some {opcode : Opcode} {arguments values : List Number}
    {error : RuntimeError} (failed : opcode.check values = some error) :
    opcode.effect arguments values = .error (.halt error) := by
  unfold check at failed
  split at failed
  next division =>
    obtain ⟨rfl, zero⟩ := division
    cases failed
    match values with
    | [] | [_] => cases zero
    | top :: second :: rest =>
      have zeroDivisor : second.isZero = true := zero
      simp only [effect, zeroDivisor, if_true]
  next =>
    split at failed
    next => cases failed
    next few =>
      cases failed
      exact effect_of_length_lt (Nat.not_le.1 few)

/-- After the check there are enough values, and no divisor is zero. -/
theorem check_eq_none {opcode : Opcode} {values : List Number}
    (checked : opcode.check values = none) :
    opcode.arity ≤ values.length ∧
      ∀ top second rest, opcode = .divide → values = top :: second :: rest →
        second.isZero = false := by
  unfold check at checked
  split at checked
  next => cases checked
  next noDivision =>
    split at checked
    next enough =>
      refine ⟨enough, ?_⟩
      rintro top second rest rfl rfl
      exact Bool.eq_false_iff.2 fun zero => noDivision ⟨rfl, zero⟩
    next => cases checked

/-! ### Operations and their accidents -/

/-- After the check, an accident is told as a number that is too large, or it is a push without a
number. -/
theorem effect_of_suffers {opcode : Opcode} {arguments values : List Number} {accident : Accident}
    (checked : opcode.check values = none) (suffers : opcode.Suffers arguments values accident) :
    (accident.isHandled = true ∧ opcode.effect arguments values = .error (.halt .numberTooLarge)) ∨
    (opcode = .push ∧ arguments = [] ∧
      opcode.effect arguments values = .error (.misuse .missingArgument)) := by
  obtain ⟨enough, divisor⟩ := check_eq_none checked
  cases suffers with
  | missingValue _ _ _ few => exact absurd enough (Nat.not_le.2 few)
  | missingArgument => exact .inr ⟨rfl, rfl, rfl⟩
  | zeroDivisor _ top second rest zero =>
    rw [divisor top second rest rfl rfl] at zero
    cases zero
  | overflow _ operation _ top second rest arithmetic beyond =>
    refine .inl ⟨rfl, ?_⟩
    cases opcode with
    | add | subtract | multiply =>
      cases arithmetic
      rw [effect, beyond]
      rfl
    | divide =>
      cases arithmetic
      rw [effect, divisor top second rest rfl rfl, beyond]
      rfl
    | _ => cases arithmetic
  | tooManyDigits _ top rest unwritable =>
    refine .inl ⟨rfl, ?_⟩
    rw [effect, unwritable]

theorem exists_none_of_ofResult {result : Option Number} {rest : List Number} {fault : Fault}
    (failed : Effect.ofResult result rest = .error fault) : result = none := by
  cases result with
  | none => rfl
  | some value => cases failed

/-- An operation that fails has suffered an accident. -/
theorem exists_suffers_of_effect {opcode : Opcode} {arguments values : List Number} {fault : Fault}
    (failed : opcode.effect arguments values = .error fault) :
    ∃ accident, opcode.Suffers arguments values accident := by
  unfold effect at failed
  split at failed
  next =>
    cases arguments with
    | nil => exact ⟨_, .missingArgument _⟩
    | cons value others => cases failed
  next top rest =>
    cases text : top.text? with
    | none => exact ⟨_, .tooManyDigits _ _ _ text⟩
    | some written =>
      rw [text] at failed
      cases failed
  next => cases failed
  next => cases failed
  next top second rest =>
    exact ⟨_, .overflow _ _ _ _ _ _ rfl (exists_none_of_ofResult failed)⟩
  next top second rest =>
    exact ⟨_, .overflow _ _ _ _ _ _ rfl (exists_none_of_ofResult failed)⟩
  next top second rest =>
    exact ⟨_, .overflow _ _ _ _ _ _ rfl (exists_none_of_ofResult failed)⟩
  next top second rest =>
    split at failed
    next zero => exact ⟨_, .zeroDivisor _ _ _ _ zero⟩
    next => exact ⟨_, .overflow _ _ _ _ _ _ rfl (exists_none_of_ofResult failed)⟩
  next => cases failed
  next => cases failed
  next notPush notPop notDuplicate notDrop notAdd notSubtract notMultiply notDivide notSwap notOver =>
    refine ⟨_, .missingValue _ _ _ ?_⟩
    match values with
    | [] => cases opcode <;> simp_all [arity]
    | [_] => cases opcode <;> simp_all [arity]
    | _ :: _ :: rest => cases opcode <;> simp_all [arity]

end Opcode

/-- On an open stack, an operation has its effect on the values. -/
theorem Stack.execute_ofList (values : List Number) (opcode : Opcode) (arguments : List Number) :
    (ofList values).execute opcode arguments =
      (opcode.effect arguments values).map fun effect => (effect.output, ofList effect.values) := by
  simp only [execute, ofList]
  cases opcode.effect arguments values <;> rfl

end Forth
