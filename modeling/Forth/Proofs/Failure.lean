/-
This file says exactly when an operation fails on an open stack, and with which
fault. There are five conditions, each with a fault of its own. They are looked at
in a fixed order, and the first that holds is told: a zero divisor before integers
that are too large for floating point.

Two of the conditions are about values. A divisor is zero if it is the integer or
one of the two zeros of floating point. And the only numbers that are too large are
an integer with too many digits to be printed, an integer that meets a floating
point number and is beyond all of them, and a quotient of integers beyond all of
them.
-/

import Forth.Proofs.Accident
import Forth.Proofs.Decimal
import Forth.Proofs.Overflow

namespace Forth

namespace Number

/-! ### Zeros -/

section Zeros

open Float.Model (UnpackedFloat)

theorem beq_zero_iff {value : UnpackedFloat} {sign : UnpackedFloat.Sign} :
    value.beq (.zero sign) = true ↔ ∃ other, value = .zero other := by
  cases value with
  | zero other => exact iff_of_true rfl ⟨other, rfl⟩
  | notANumber => exact iff_of_false Bool.false_ne_true nofun
  | infinity other => cases other <;> exact iff_of_false Bool.false_ne_true nofun
  | finite other _ _ _ => cases other <;> exact iff_of_false Bool.false_ne_true nofun

/-- Only two bit patterns are unpacked as a zero. -/
theorem toBits_of_unpack_eq_zero {bits : UInt64} {sign : UnpackedFloat.Sign}
    (unpacked : UnpackedFloat.unpack .binary64 bits.toBitVec = .zero sign) :
    bits = (0 : Float).toBits ∨ bits = (-0 : Float).toBits := by
  have positiveBits : (0 : Float).toBits = 0 := by decide
  have negativeBits : (-0 : Float).toBits = 0x8000000000000000 := by decide
  unfold UnpackedFloat.unpack at unpacked
  obtain ⟨-, special⟩ | ⟨-, regular⟩ := ite_eq_iff.1 unpacked
  · obtain ⟨-, infinite⟩ | ⟨-, undefined⟩ := ite_eq_iff.1 special
    · cases infinite
    · cases undefined
  obtain ⟨noExponent, small⟩ | ⟨-, normal⟩ := ite_eq_iff.1 regular
  · obtain ⟨noMantissa, -⟩ | ⟨_, subnormal⟩ := dite_eq_iff.1 small
    · have exponent : bits.toNat / 2 ^ 52 % 2 ^ 11 = 0 := by
        simpa [UnpackedFloat.unpackExponent, Nat.shiftRight_eq_div_pow] using
          congrArg BitVec.toNat noExponent
      have mantissa : bits.toNat % 2 ^ 52 = 0 := by
        simpa [UnpackedFloat.unpackMantissa] using congrArg BitVec.toNat noMantissa
      have bound := bits.toNat_lt
      rw [positiveBits, negativeBits, ← UInt64.toNat_inj, ← UInt64.toNat_inj]
      simp only [UInt64.reduceToNat]
      omega
    · cases subnormal
  · cases normal

theorem toBits_injective {first second : Float} (same : first.toBits = second.toBits) :
    first = second := by
  obtain ⟨⟨bits, valid⟩⟩ := first
  obtain ⟨⟨others, otherValid⟩⟩ := second
  cases show bits = others from same
  rfl

/-- Of the floating point numbers, two are equal to zero. -/
theorem float_beq_zero_iff {value : Float} : (value == 0) = true ↔ value = 0 ∨ value = -0 := by
  constructor
  · intro equal
    have compared : value.toModel.unpack.beq (.zero .positive) = true := equal
    obtain ⟨sign, unpacked⟩ := beq_zero_iff.1 compared
    exact (toBits_of_unpack_eq_zero unpacked).imp toBits_injective toBits_injective
  · rintro (rfl | rfl) <;> decide

end Zeros

theorem isZero_iff {number : Number} :
    number.isZero = true ↔ number = .int 0 ∨ number = .float 0 ∨ number = .float (-0) := by
  cases number with
  | int value => simp [isZero]
  | float value => simp [isZero, float_beq_zero_iff]

/-! ### Arithmetic without a result -/

theorem roundInt?_eq_none_iff {value : Int} :
    roundInt? value = none ↔ overflowThreshold ≤ value.natAbs := by
  rw [roundInt?, roundRatio?_eq_none_iff _ _ Nat.one_pos, Nat.mul_one]

theorem quotient?_eq_none_iff {dividend divisor : Int} (nonzero : divisor ≠ 0) :
    quotient? dividend divisor = none ↔
      overflowThreshold * divisor.natAbs ≤ dividend.natAbs := by
  rw [quotient?, roundRatio?_eq_none_iff _ _ (Int.natAbs_pos.2 nonzero)]

/-- Whether one of two numbers is floating point and the other an integer that is too large to be
brought to floating point. -/
inductive MeetsTooLarge : Number → Number → Prop where
  | first (whole : Int) (value : Float) (beyond : overflowThreshold ≤ whole.natAbs) :
      MeetsTooLarge (.int whole) (.float value)
  | second (value : Float) (whole : Int) (beyond : overflowThreshold ≤ whole.natAbs) :
      MeetsTooLarge (.float value) (.int whole)

theorem combine_eq_none_iff {whole : Int → Int → Int} {floating : Float → Float → Float}
    {left right : Number} :
    combine whole floating left right = none ↔ MeetsTooLarge left right := by
  constructor
  · intro missing
    match left, right with
    | .int _, .int _ | .float _, .float _ => cases missing
    | .int value, .float other =>
      cases rounded : roundInt? value with
      | none => exact .first value other (roundInt?_eq_none_iff.1 rounded)
      | some near => simp [combine, toFloat?, rounded] at missing
    | .float other, .int value =>
      cases rounded : roundInt? value with
      | none => exact .second other value (roundInt?_eq_none_iff.1 rounded)
      | some near => simp [combine, toFloat?, rounded] at missing
  · intro meets
    cases meets with
    | first value other beyond => simp [combine, toFloat?, roundInt?_eq_none_iff.2 beyond]
    | second other value beyond => simp [combine, toFloat?, roundInt?_eq_none_iff.2 beyond]

/-- Whether two numbers are integers whose quotient is too large for floating point. -/
inductive QuotientTooLarge : Number → Number → Prop where
  | intro (dividend divisor : Int) (nonzero : divisor ≠ 0)
      (beyond : overflowThreshold * divisor.natAbs ≤ dividend.natAbs) :
      QuotientTooLarge (.int dividend) (.int divisor)

/-- Integers are divided in their own way, and all other pairs as they are combined otherwise. -/
theorem divide?_eq_none_iff {dividend divisor : Number} (nonzero : divisor.isZero = false) :
    dividend.divide? divisor = none ↔
      MeetsTooLarge dividend divisor ∨ QuotientTooLarge dividend divisor := by
  have mixed (left right : Number)
      (float : ∀ first second, left = .int first → right ≠ .int second) :
      left.divide? right = combine (· * ·) (· / ·) left right := by
    match left, right with
    | .int first, .int second => exact absurd rfl (float first second rfl)
    | .int _, .float _ | .float _, .int _ | .float _, .float _ => rfl
  match dividend, divisor with
  | .int left, .int right =>
    have notZero : right ≠ 0 := by simpa [isZero] using nonzero
    have quotient : (Number.int left).divide? (.int right) =
      (quotient? left right).map .float := rfl
    rw [quotient, Option.map_eq_none_iff, quotient?_eq_none_iff notZero]
    constructor
    · exact fun beyond => .inr (.intro left right notZero beyond)
    · rintro (meets | tooLarge)
      · cases meets
      · cases tooLarge with
        | intro _ _ _ beyond => exact beyond
  | .int left, .float right | .float left, .int right | .float left, .float right =>
    rw [mixed _ _ (by simp), combine_eq_none_iff]
    exact ⟨.inl, fun either => either.elim id nofun⟩

end Number

/-! ### Numbers that are too large -/

namespace Opcode

/-- The operations that do arithmetic. -/
def arithmetical : List Opcode :=
  [.add, .subtract, .multiply, .divide]

/-- Whether an operation finds a number that is too large among its values: one that has too many
digits to be printed, one that can not be brought to floating point, or a quotient of integers. -/
inductive TooLarge : Opcode → List Number → Prop where
  | text (top : Int) (rest : List Number) (long : 10 ^ Number.digitLimit ≤ top.natAbs) :
      TooLarge .pop (.int top :: rest)
  | operand (opcode : Opcode) (top second : Number) (rest : List Number)
      (arithmetic : opcode ∈ arithmetical) (meets : Number.MeetsTooLarge top second) :
      TooLarge opcode (top :: second :: rest)
  | quotient (top second : Number) (rest : List Number)
      (beyond : Number.QuotientTooLarge top second) : TooLarge .divide (top :: second :: rest)

theorem mem_arithmetical_iff {opcode : Opcode} :
    opcode ∈ arithmetical ↔ ∃ operation, opcode.arithmetic? = some operation := by
  cases opcode <;> simp [arithmetical, arithmetic?]

/-- Arithmetic that passes the check has no result exactly if a number is too large. -/
theorem tooLarge_iff_of_arithmetic? {opcode : Opcode} {operation : Number → Number → Option Number}
    {top second : Number} {rest : List Number} (arithmetic : opcode.arithmetic? = some operation)
    (divisible : opcode = .divide → second.isZero = false) :
    opcode.TooLarge (top :: second :: rest) ↔ operation top second = none := by
  have listed : opcode ∈ arithmetical := mem_arithmetical_iff.2 ⟨operation, arithmetic⟩
  have notDivided (combined : operation top second = none ↔ Number.MeetsTooLarge top second)
      (noQuotient : opcode ≠ .divide) (noText : opcode ≠ .pop) :
      opcode.TooLarge (top :: second :: rest) ↔ operation top second = none := by
    rw [combined]
    refine ⟨fun tooLarge => ?_, fun meets => .operand opcode top second rest listed meets⟩
    cases tooLarge with
    | text => exact absurd rfl noText
    | operand _ _ _ _ _ meets => exact meets
    | quotient => exact absurd rfl noQuotient
  cases opcode with
  | add | subtract | multiply =>
    cases arithmetic
    exact notDivided Number.combine_eq_none_iff nofun nofun
  | divide =>
    cases arithmetic
    rw [Number.divide?_eq_none_iff (divisible rfl)]
    constructor
    · intro tooLarge
      cases tooLarge with
      | operand _ _ _ _ _ meets => exact .inl meets
      | quotient _ _ _ beyond => exact .inr beyond
    · rintro (meets | beyond)
      · exact .operand .divide top second rest listed meets
      · exact .quotient top second rest beyond
  | _ => cases arithmetic

/-- After the check, an operation finds a number that is too large exactly if it suffers an accident
that is told as such. -/
theorem tooLarge_iff {opcode : Opcode} {values : List Number} (arguments : List Number)
    (checked : opcode.check values = none) :
    opcode.TooLarge values ↔
      ∃ accident : Accident, accident.isHandled = true ∧
        opcode.Suffers arguments values accident := by
  obtain ⟨-, divisor⟩ := check_eq_none checked
  constructor
  · intro tooLarge
    cases tooLarge with
    | text top rest long =>
      exact ⟨_, rfl, .tooManyDigits arguments _ rest (Number.text?_eq_none_iff.2 ⟨top, rfl, long⟩)⟩
    | operand _ top second rest listed meets =>
      obtain ⟨operation, arithmetic⟩ := mem_arithmetical_iff.1 listed
      exact ⟨_, rfl, .overflow opcode operation arguments top second rest arithmetic
        ((tooLarge_iff_of_arithmetic? arithmetic fun division => divisor _ _ _ division rfl).1
          (.operand opcode top second rest listed meets))⟩
    | quotient top second rest beyond =>
      exact ⟨_, rfl, .overflow .divide Number.divide? arguments top second rest rfl
        ((Number.divide?_eq_none_iff (divisor _ _ _ rfl rfl)).2 (.inr beyond))⟩
  · rintro ⟨accident, handled, suffers⟩
    cases suffers with
    | overflow _ operation _ top second rest arithmetic beyond =>
      exact (tooLarge_iff_of_arithmetic? arithmetic fun division => divisor _ _ _ division rfl).2
        beyond
    | tooManyDigits _ top rest unwritable =>
      obtain ⟨value, rfl, long⟩ := Number.text?_eq_none_iff.1 unwritable
      exact .text value rest long
    | missingValue | missingArgument | zeroDivisor => cases handled

/-! ### The first condition that holds -/

/-- The conditions under which an operation fails, in the order in which they are looked at, and the
fault that each of them is told as. -/
def conditions (opcode : Opcode) (arguments values : List Number) : List (Prop × Fault) :=
  [(opcode.arity = 1 ∧ values = [], .halt .stackEmpty),
    (opcode = .divide ∧ ∃ top second rest, values = top :: second :: rest ∧
      (second = .int 0 ∨ second = .float 0 ∨ second = .float (-0)), .halt .divisionByZero),
    (opcode.arity = 2 ∧ values.length < 2, .halt .notEnoughElements),
    (opcode.TooLarge values, .halt .numberTooLarge),
    (opcode = .push ∧ arguments = [], .misuse .missingArgument)]

/-- Whether a fault is that of the first condition that holds. -/
inductive FirstHolding : List (Prop × Fault) → Fault → Prop where
  | here (condition : Prop) (fault : Fault) (rest : List (Prop × Fault)) (holds : condition) :
      FirstHolding ((condition, fault) :: rest) fault
  | later (condition : Prop) (other fault : Fault) (rest : List (Prop × Fault))
      (fails : ¬ condition) (first : FirstHolding rest fault) :
      FirstHolding ((condition, other) :: rest) fault

theorem exists_firstHolding {conditions : List (Prop × Fault)}
    (holds : ∃ condition ∈ conditions, condition.1) : ∃ fault, FirstHolding conditions fault := by
  induction conditions with
  | nil =>
    obtain ⟨_, member, -⟩ := holds
    cases member
  | cons first rest inductionHypothesis =>
    obtain ⟨condition, fault⟩ := first
    by_cases here : condition
    · exact ⟨fault, .here condition fault rest here⟩
    · obtain ⟨_, member, later⟩ := holds
      obtain rfl | member := List.mem_cons.1 member
      · exact absurd later here
      · obtain ⟨other, first⟩ := inductionHypothesis ⟨_, member, later⟩
        exact ⟨other, .later condition fault other rest here first⟩

/-- An operation that does not pass the check meets one of the first three conditions. -/
theorem cases_of_check_eq_some {opcode : Opcode} {values : List Number} {error : RuntimeError}
    (checked : opcode.check values = some error) :
    (opcode.arity = 1 ∧ values = []) ∨
      (opcode = .divide ∧ ∃ top second rest, values = top :: second :: rest ∧
        (second = .int 0 ∨ second = .float 0 ∨ second = .float (-0))) ∨
      (opcode.arity = 2 ∧ values.length < 2) := by
  unfold check at checked
  split at checked
  next division =>
    obtain ⟨rfl, zero⟩ := division
    match values with
    | [] | [_] => cases zero
    | top :: second :: rest =>
      exact .inr (.inl ⟨rfl, top, second, rest, rfl, Number.isZero_iff.1 zero⟩)
  next =>
    split at checked
    next => cases checked
    next few =>
      obtain one | two : opcode.arity = 1 ∨ opcode.arity = 2 := by
        cases opcode <;> simp [arity] at few ⊢
      · exact .inl ⟨one, List.length_eq_zero_iff.1 (by omega)⟩
      · exact .inr (.inr ⟨two, by omega⟩)

/-- An operation that fails meets one of the conditions. -/
theorem exists_condition_of_effect {opcode : Opcode} {arguments values : List Number}
    {fault : Fault} (failed : opcode.effect arguments values = .error fault) :
    ∃ condition ∈ opcode.conditions arguments values, condition.1 := by
  cases checked : opcode.check values with
  | some error =>
    obtain empty | zero | few := cases_of_check_eq_some checked
    · exact ⟨_, .head _, empty⟩
    · exact ⟨_, .tail _ (.head _), zero⟩
    · exact ⟨_, .tail _ (.tail _ (.head _)), few⟩
  | none =>
    obtain ⟨accident, suffers⟩ := exists_suffers_of_effect failed
    obtain ⟨handled, -⟩ | ⟨push, missing, -⟩ := effect_of_suffers checked suffers
    · exact ⟨_, .tail _ (.tail _ (.tail _ (.head _))),
        (tooLarge_iff arguments checked).2 ⟨accident, handled, suffers⟩⟩
    · exact ⟨_, .tail _ (.tail _ (.tail _ (.tail _ (.head _)))), push, missing⟩

theorem effect_of_tooLarge {opcode : Opcode} {values : List Number} (arguments : List Number)
    (checked : opcode.check values = none) (tooLarge : opcode.TooLarge values) :
    opcode.effect arguments values = .error (.halt .numberTooLarge) := by
  obtain ⟨accident, handled, suffers⟩ := (tooLarge_iff arguments checked).1 tooLarge
  obtain ⟨-, failed⟩ | ⟨rfl, -, -⟩ := effect_of_suffers checked suffers
  · exact failed
  · cases tooLarge with
    | operand _ _ _ _ listed => simp [arithmetical] at listed

/-- An operation fails as the first of the conditions tells. The cases are the five conditions, each
where those before it do not hold. -/
theorem effect_of_firstHolding {opcode : Opcode} {arguments values : List Number} {fault : Fault}
    (first : FirstHolding (opcode.conditions arguments values) fault) :
    opcode.effect arguments values = .error fault := by
  cases first with
  | here _ _ _ holds =>
    obtain ⟨one, rfl⟩ := holds
    rw [effect_of_length_lt (by simp [one]), if_pos one]
  | later _ _ _ _ notEmpty first =>
  cases first with
  | here _ _ _ holds =>
    obtain ⟨rfl, top, second, rest, rfl, zero⟩ := holds
    rw [effect, if_pos (Number.isZero_iff.2 zero)]
  | later _ _ _ _ notZero first =>
  cases first with
  | here _ _ _ holds =>
    obtain ⟨two, few⟩ := holds
    rw [effect_of_length_lt (two ▸ few), if_neg (by omega)]
  | later _ _ _ _ notFew first =>
  have checked : opcode.check values = none := by
    cases checked : opcode.check values with
    | none => rfl
    | some error =>
      obtain empty | zero | few := cases_of_check_eq_some checked
      · exact absurd empty notEmpty
      · exact absurd zero notZero
      · exact absurd few notFew
  cases first with
  | here _ _ _ tooLarge => exact effect_of_tooLarge arguments checked tooLarge
  | later _ _ _ _ _ first =>
  cases first with
  | here _ _ _ holds =>
    obtain ⟨rfl, rfl⟩ := holds
    rfl
  | later _ _ _ _ _ first => cases first

theorem effect_eq_error_iff {opcode : Opcode} {arguments values : List Number} {fault : Fault} :
    opcode.effect arguments values = .error fault ↔
      FirstHolding (opcode.conditions arguments values) fault := by
  refine ⟨fun failed => ?_, effect_of_firstHolding⟩
  obtain ⟨other, first⟩ := exists_firstHolding (exists_condition_of_effect failed)
  obtain rfl : other = fault := by simpa [effect_of_firstHolding first] using failed
  exact first

/-- Every fault of an operation has its reason. -/
theorem cases_of_effect_eq_error {opcode : Opcode} {arguments values : List Number} {fault : Fault}
    (failed : opcode.effect arguments values = .error fault) :
    (fault = .halt .stackEmpty ∧ values = []) ∨
      (fault = .halt .divisionByZero ∧ opcode = .divide) ∨
      (fault = .halt .notEnoughElements ∧ values.length < 2) ∨
      (fault = .halt .numberTooLarge ∧ opcode.TooLarge values) ∨
      (fault = .misuse .missingArgument ∧ opcode = .push) := by
  cases effect_eq_error_iff.1 failed with
  | here _ _ _ holds => exact .inl ⟨rfl, holds.2⟩
  | later _ _ _ _ _ first =>
  cases first with
  | here _ _ _ holds => exact .inr (.inl ⟨rfl, holds.1⟩)
  | later _ _ _ _ _ first =>
  cases first with
  | here _ _ _ holds => exact .inr (.inr (.inl ⟨rfl, holds.2⟩))
  | later _ _ _ _ _ first =>
  cases first with
  | here _ _ _ holds => exact .inr (.inr (.inr (.inl ⟨rfl, holds⟩)))
  | later _ _ _ _ _ first =>
  cases first with
  | here _ _ _ holds => exact .inr (.inr (.inr (.inr ⟨rfl, holds.1⟩)))
  | later _ _ _ _ _ first => cases first

end Opcode

/-! ### Operations on a stack -/

namespace Stack

theorem execute_ofList_eq_error_iff {values arguments : List Number} {opcode : Opcode}
    {fault : Fault} :
    (ofList values).execute opcode arguments = .error fault ↔
      opcode.effect arguments values = .error fault := by
  rw [execute_ofList]
  cases opcode.effect arguments values <;> simp [Except.map]

theorem exists_execute_ofList_iff {values arguments : List Number} {opcode : Opcode} :
    (∃ text next, (ofList values).execute opcode arguments = .ok (text, next)) ↔
      ∃ effect, opcode.effect arguments values = .ok effect := by
  rw [execute_ofList]
  cases opcode.effect arguments values <;> simp [Except.map]

/-- An operation on an open stack fails if and only if one of the conditions holds, and it is told
as the first of them that does. Sums, differences and products of integers never fail, and
operations on floating point numbers only if a divisor is zero. -/
theorem execute_eq_error_iff_firstHolding (opcode : Opcode) (arguments values : List Number) :
    (∀ fault, (ofList values).execute opcode arguments = .error fault ↔
      Opcode.FirstHolding (opcode.conditions arguments values) fault) ∧
    (∀ (left right : Int) (rest : List Number), values = .int left :: .int right :: rest →
      opcode ∈ [.add, .subtract, .multiply] →
      ∃ text next, (ofList values).execute opcode arguments = .ok (text, next)) ∧
    (∀ (top second : Float) (rest : List Number), values = .float top :: .float second :: rest →
      opcode ≠ .push → (opcode = .divide → second ≠ 0 ∧ second ≠ -0) →
      ∃ text next, (ofList values).execute opcode arguments = .ok (text, next)) ∧
    RuntimeError.stackEmpty.message = "The stack is empty." ∧
    RuntimeError.divisionByZero.message = "Division by zero." ∧
    RuntimeError.notEnoughElements.message = "There are not enough elements in the stack." ∧
    RuntimeError.numberTooLarge.message = "Number too large." := by
  refine ⟨fun fault => ?_, ?_, ?_, rfl, rfl, rfl, rfl⟩
  · rw [execute_ofList_eq_error_iff, Opcode.effect_eq_error_iff]
  · rintro left right rest rfl listed
    simp only [List.mem_cons, List.not_mem_nil, or_false] at listed
    obtain rfl | rfl | rfl := listed <;> exact ⟨_, _, rfl⟩
  · rintro top second rest rfl notPush nonzero
    refine exists_execute_ofList_iff.2 ?_
    cases opcode with
    | push => exact absurd rfl notPush
    | divide =>
      have notZero : (Number.float second).isZero ≠ true := by
        rw [ne_eq, Number.isZero_iff]
        simpa using nonzero rfl
      exact ⟨⟨"", .float (top / second) :: rest⟩, by rw [Opcode.effect, if_neg notZero]; rfl⟩
    | _ => exact ⟨_, rfl⟩

/-- The zero is told first, whatever the dividend. -/
example : (ofList [.int (10 ^ 400), .float (-0)]).execute .divide [] =
    .error (.halt .divisionByZero) := by
  rfl

end Stack

end Forth
