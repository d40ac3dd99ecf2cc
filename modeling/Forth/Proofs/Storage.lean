/-
This file looks at the values of a stack as they can be stored: in an array, the
bottom first, which operations change in place. An operation is a piece of work on
the array. It looks at places that are counted from the end, removes values there and
adds others, and an accident breaks it off where it is, with the array as it is then.

The order of the pieces matters. Whatever can go wrong goes wrong before anything is
changed, so an operation is carried out as a whole or not at all, and what is in the
array is always the list of the values the other way round.
-/

import Forth.Proofs.Accident

namespace Forth

/-! ### Pieces of work -/

/-- A piece of work on an array of values. An accident breaks it off, and what was changed before it
stays changed. -/
abbrev Work (Result : Type) := ExceptT Accident (StateM (Array Number)) Result

/-- The value at a place that is counted from the end, where the last value has the place one. -/
def fromEnd? (values : Array Number) (place : Nat) : Option Number :=
  if place ≤ values.size then values[values.size - place]? else none

namespace Work

/-- What comes of a piece of work on an array, and the array that it leaves. -/
def on {Result : Type} (work : Work Result) (values : Array Number) :
    Except Accident Result × Array Number :=
  StateT.run (ExceptT.run work) values

/-- A result that may be missing, which is an accident then. -/
def expect {Result : Type} (accident : Accident) : Option Result → Work Result
  | some result => return result
  | none => throw accident

/-- Looks at the value at a place. -/
def fetch (place : Nat) : Work Number := do
  expect .missingValue (fromEnd? (← get) place)

/-- Puts another value at a place. -/
def assign (place : Nat) (value : Number) : Work Unit := do
  let _ ← fetch place
  modify fun values => values.setIfInBounds (values.size - place) value

/-- Adds a value at the end. -/
def append (value : Number) : Work Unit :=
  modify fun values => values.push value

/-- Removes the value at the end. -/
def removeLast : Work Unit := do
  let _ ← fetch 1
  modify Array.pop

/-- Removes the two values at the end, or as many as there are. -/
def removeTwo : Work Unit :=
  modify fun values => values.pop.pop

/-- Replaces the two values at the end by one that is computed from them. -/
def combine (compute : Number → Number → Work Number) : Work String := do
  let top ← fetch 1
  let second ← fetch 2
  let result ← compute top second
  -- From here on nothing can go wrong any more.
  removeTwo
  append result
  return ""

end Work

open Work in
/-- The work of an operation. -/
def Opcode.work (opcode : Opcode) (arguments : List Number) : Work String :=
  match opcode with
  | .push => do
    let value ← expect .missingArgument arguments.head?
    append value
    return ""
  | .pop => do
    let top ← fetch 1
    let text ← expect .tooManyDigits top.text?
    removeLast
    return text
  | .add => combine fun top second => expect .overflow (top.add? second)
  | .subtract => combine fun top second => expect .overflow (top.subtract? second)
  | .multiply => combine fun top second => expect .overflow (top.multiply? second)
  | .divide => combine fun top second =>
    if second.isZero then throw .zeroDivisor else expect .overflow (top.divide? second)
  | .duplicate => do
    append (← fetch 1)
    return ""
  | .drop => do
    removeLast
    return ""
  | .swap => do
    let second ← fetch 2
    let top ← fetch 1
    -- The places were looked at, so both assignments find them.
    assign 1 second
    assign 2 top
    return ""
  | .over => do
    append (← fetch 2)
    return ""

/-! ### Work on a list that is kept in an array -/

/-- The array of a list of values, bottom first. -/
def keep (values : List Number) : Array Number :=
  values.reverse.toArray

@[simp]
theorem size_keep (values : List Number) : (keep values).size = values.length := by
  simp [keep]

@[simp]
theorem push_keep (values : List Number) (value : Number) :
    (keep values).push value = keep (value :: values) := by
  simp [keep]

@[simp]
theorem pop_keep (top : Number) (rest : List Number) : (keep (top :: rest)).pop = keep rest := by
  simp [keep]

theorem toList_keep (values : List Number) : (keep values).toList.reverse = values := by
  simp [keep]

/-- A place that is counted from the end of the array is one counted from the top of the list. -/
@[simp]
theorem fromEnd?_keep (values : List Number) (place : Nat) :
    fromEnd? (keep values) (place + 1) = values[place]? := by
  unfold fromEnd?
  rw [size_keep]
  split
  next within =>
    rw [keep, List.getElem?_toArray, List.getElem?_reverse (by omega)]
    congr 1
    omega
  next beyond => exact (List.getElem?_eq_none (by omega)).symm

/-- Another value at a place of the array is another value at that place of the list. -/
theorem set_keep {values : List Number} {place : Nat} (within : place < values.length)
    (value : Number) :
    (keep values).setIfInBounds (values.length - (place + 1)) value =
      keep (values.set place value) := by
  refine Array.toList_inj.1 (List.ext_getElem (by simp [keep]) fun index inLeft inRight => ?_)
  have inside : index < values.length := by simpa [keep] using inRight
  simp only [keep, List.setIfInBounds_toArray, List.getElem_set, List.getElem_reverse,
    List.length_set]
  congr 1
  exact propext (by omega)

namespace Work

variable {Result Next : Type}

/-- What is done next starts with the array that the first piece of work leaves, unless an accident
broke it off. -/
theorem bind_on (work : Work Result) (next : Result → Work Next) (values : Array Number) :
    (work >>= next).on values =
      match work.on values with
      | (.ok result, left) => (next result).on left
      | (.error accident, left) => (.error accident, left) := by
  show StateT.run (ExceptT.run (work >>= next)) values = _
  simp only [ExceptT.run_bind, StateT.run_bind, on]
  cases StateT.run (ExceptT.run work) values with
  | mk outcome left => cases outcome <;> rfl

@[simp]
theorem pure_on (result : Result) (values : Array Number) :
    (pure result : Work Result).on values = (.ok result, values) :=
  rfl

@[simp]
theorem expect_none_on (accident : Accident) (values : Array Number) :
    (expect accident none : Work Result).on values = (.error accident, values) :=
  rfl

@[simp]
theorem expect_some_on (accident : Accident) (result : Result) (values : Array Number) :
    (expect accident (some result)).on values = (.ok result, values) :=
  rfl

theorem modify_on (change : Array Number → Array Number) (values : Array Number) :
    (modify change : Work Unit).on values = (.ok (), change values) :=
  rfl

@[simp]
theorem append_on (value : Number) (values : Array Number) :
    (append value).on values = (.ok (), values.push value) :=
  rfl

@[simp]
theorem removeTwo_on (values : Array Number) : removeTwo.on values = (.ok (), values.pop.pop) :=
  rfl

theorem fetch_on (place : Nat) (values : Array Number) :
    (fetch place).on values = (expect .missingValue (fromEnd? values place)).on values :=
  rfl

/-! What the pieces do to a list that is kept in the array. -/

variable {values : List Number} {place : Nat}

theorem fetch_on_keep {value : Number} (found : values[place]? = some value) :
    (fetch (place + 1)).on (keep values) = (.ok value, keep values) := by
  rw [fetch_on, fromEnd?_keep, found, expect_some_on]

@[simp]
theorem fetch_one_on_keep (top : Number) (rest : List Number) :
    (fetch 1).on (keep (top :: rest)) = (.ok top, keep (top :: rest)) :=
  fetch_on_keep rfl

@[simp]
theorem fetch_two_on_keep (top second : Number) (rest : List Number) :
    (fetch 2).on (keep (top :: second :: rest)) = (.ok second, keep (top :: second :: rest)) :=
  fetch_on_keep rfl

theorem assign_on_keep (within : place < values.length) (value : Number) :
    (assign (place + 1) value).on (keep values) = (.ok (), keep (values.set place value)) := by
  rw [assign, bind_on, fetch_on_keep (List.getElem?_eq_getElem within)]
  simp only [modify_on, size_keep, set_keep within]

@[simp]
theorem assign_one_on_keep (top value : Number) (rest : List Number) :
    (assign 1 value).on (keep (top :: rest)) = (.ok (), keep (value :: rest)) :=
  assign_on_keep (Nat.zero_lt_succ _) value

@[simp]
theorem assign_two_on_keep (top second value : Number) (rest : List Number) :
    (assign 2 value).on (keep (top :: second :: rest)) = (.ok (), keep (top :: value :: rest)) :=
  assign_on_keep (Nat.succ_lt_succ (Nat.zero_lt_succ _)) value

@[simp]
theorem removeLast_on_keep (top : Number) (rest : List Number) :
    removeLast.on (keep (top :: rest)) = (.ok (), keep rest) := by
  rw [removeLast, bind_on, fetch_one_on_keep]
  simp only [modify_on, pop_keep]

end Work

/-! ### Operations are carried out as a whole or not at all -/

/-- How an accident is told to whoever asked for the operation. One that is not told goes unhandled. -/
def Accident.fault? : Accident → Option Fault
  | .overflow | .tooManyDigits => some (.halt .numberTooLarge)
  | .missingArgument => some (.misuse .missingArgument)
  | .missingValue | .zeroDivisor => none

/-- What work on an array comes to, if an operation does the same to the list that is kept there. Either
all of it is done, or an accident is told that has left the array as it was. -/
inductive Work.CarriesOut (values : List Number) :
    Except Fault Effect → Except Accident String × Array Number → Prop where
  | done (effect : Effect) : CarriesOut values (.ok effect) (.ok effect.output, keep effect.values)
  | undone (accident : Accident) (fault : Fault) (told : accident.fault? = some fault) :
      CarriesOut values (.error fault) (.error accident, keep values)

theorem Work.combine_carriesOut {compute : Number → Number → Work Number} {result : Option Number}
    {top second : Number} (computes : compute top second = expect .overflow result)
    (rest : List Number) :
    CarriesOut (top :: second :: rest) (Effect.ofResult result rest)
      ((combine compute).on (keep (top :: second :: rest))) := by
  simp only [combine, bind_on, fetch_one_on_keep, fetch_two_on_keep, computes]
  cases result with
  | none =>
    simp only [expect_none_on]
    exact .undone .overflow _ rfl
  | some result =>
    simp only [expect_some_on, removeTwo_on, append_on, pure_on, pop_keep, push_keep]
    exact .done ⟨"", result :: rest⟩

/-- After the check, the work of an operation carries the operation out. -/
theorem Opcode.work_carriesOut {opcode : Opcode} {values : List Number}
    (checked : opcode.check values = none) (arguments : List Number) :
    Work.CarriesOut values (opcode.effect arguments values)
      ((opcode.work arguments).on (keep values)) := by
  obtain ⟨enough, divisor⟩ := check_eq_none checked
  match opcode, values with
  | .push, values =>
    cases arguments with
    | nil =>
      simp only [work, Work.bind_on, List.head?_nil, Work.expect_none_on]
      exact .undone .missingArgument _ rfl
    | cons value others =>
      simp only [work, Work.bind_on, List.head?_cons, Work.expect_some_on, Work.append_on,
        Work.pure_on, push_keep]
      exact .done ⟨"", value :: values⟩
  | .pop, top :: rest =>
    simp only [work, effect, Work.bind_on, Work.fetch_one_on_keep]
    cases top.text? with
    | none =>
      simp only [Work.expect_none_on]
      exact .undone .tooManyDigits _ rfl
    | some text =>
      simp only [Work.expect_some_on, Work.removeLast_on_keep, Work.pure_on]
      exact .done ⟨text, rest⟩
  | .duplicate, top :: rest =>
    simp only [work, Work.bind_on, Work.fetch_one_on_keep, Work.append_on, Work.pure_on, push_keep]
    exact .done ⟨"", top :: top :: rest⟩
  | .drop, top :: rest =>
    simp only [work, Work.bind_on, Work.removeLast_on_keep, Work.pure_on]
    exact .done ⟨"", rest⟩
  | .swap, top :: second :: rest =>
    simp only [work, Work.bind_on, Work.fetch_one_on_keep, Work.fetch_two_on_keep,
      Work.assign_one_on_keep, Work.assign_two_on_keep, Work.pure_on]
    exact .done ⟨"", second :: top :: rest⟩
  | .over, top :: second :: rest =>
    simp only [work, Work.bind_on, Work.fetch_two_on_keep, Work.append_on, Work.pure_on, push_keep]
    exact .done ⟨"", second :: top :: second :: rest⟩
  | .add, top :: second :: rest => exact Work.combine_carriesOut rfl rest
  | .subtract, top :: second :: rest => exact Work.combine_carriesOut rfl rest
  | .multiply, top :: second :: rest => exact Work.combine_carriesOut rfl rest
  | .divide, top :: second :: rest =>
    have notZero : second.isZero = false := divisor top second rest rfl rfl
    simp only [effect, notZero]
    refine Work.combine_carriesOut ?_ rest
    simp only [notZero]
    rfl

/-! ### The stack as it is stored -/

/-- The values of a stack in an array, bottom first, or nothing after the stack was closed. -/
structure Storage where
  values? : Option (Array Number)

/-- What is wrong with the values in an array before an operation is performed on them. -/
def Opcode.checkStored (opcode : Opcode) (values : Array Number) : Option RuntimeError :=
  if opcode = .divide ∧ ((fromEnd? values 2).any Number.isZero) = true then some .divisionByZero
  else if opcode.arity ≤ values.size then none
  else some (if opcode.arity = 1 then .stackEmpty else .notEnoughElements)

theorem Opcode.checkStored_keep (opcode : Opcode) (values : List Number) :
    opcode.checkStored (keep values) = opcode.check values := by
  rw [checkStored, fromEnd?_keep, size_keep, check]

namespace Storage

/-- The storage of a new stack with the given values, top first. -/
def ofList (values : List Number) : Storage :=
  ⟨some (keep values)⟩

/-- Performs an operation, after a check. An accident leaves the array as it is then. -/
def operate (storage : Storage) (opcode : Opcode) (arguments : List Number) :
    Except Accident (Except Fault Stack.Answer) × Storage :=
  match storage.values? with
  | none => (.ok (.error (.halt .stackClosed)), storage)
  | some values =>
    match opcode.checkStored values with
    | some error => (.ok (.error (.halt error)), storage)
    | none =>
      match (opcode.work arguments).on values with
      | (.ok text, left) => (.ok (.ok (.text text)), ⟨some left⟩)
      | (.error accident, left) =>
        match accident.fault? with
        | some fault => (.ok (.error fault), ⟨some left⟩)
        | none => (.error accident, ⟨some left⟩)

/-- The answer to a request, unless an accident goes unhandled, and the storage after it. -/
def perform (storage : Storage) : Stack.Request → Except Accident (Except Fault Stack.Answer) × Storage
  | .execute opcode arguments => storage.operate opcode arguments
  | .call opcode arguments => storage.operate opcode arguments.toList
  | .values =>
    match storage.values? with
    | some values => (.ok (.ok (.values values.toList.reverse)), storage)
    | none => (.ok (.error (.halt .stackClosed)), storage)
  | .length => (.ok (.ok (.length (storage.values?.elim 0 Array.size))), storage)
  | .isClosed => (.ok (.ok (.truth storage.values?.isNone)), storage)
  | .close => (.ok (.ok .nothing), ⟨none⟩)
  | .leave => (.ok (.ok (.truth true)), ⟨none⟩)

end Storage

namespace Stack

/-- How a stack is stored. -/
def stored (stack : Stack) : Storage :=
  ⟨stack.contents?.map keep⟩

/-- On an open stack, an operation is answered by its effect, or the stack is left as it is. -/
theorem answerOperation_ofList (values : List Number) (opcode : Opcode) (arguments : List Number) :
    (ofList values).answerOperation opcode arguments =
      match opcode.effect arguments values with
      | .ok effect => (.ok (.text effect.output), ofList effect.values)
      | .error fault => (.error fault, ofList values) := by
  rw [answerOperation, execute_ofList]
  cases opcode.effect arguments values <;> rfl

theorem operate_stored (stack : Stack) (opcode : Opcode) (arguments : List Number) :
    stack.stored.operate opcode arguments =
      (.ok (stack.answerOperation opcode arguments).1,
        (stack.answerOperation opcode arguments).2.stored) := by
  obtain ⟨_ | values⟩ := stack
  case none => rfl
  case some =>
    rw [show answerOperation ⟨some values⟩ opcode arguments = _ from
      answerOperation_ofList values opcode arguments]
    simp only [stored, Storage.operate, Option.map_some, Opcode.checkStored_keep]
    cases checked : opcode.check values with
    | some error =>
      rw [Opcode.effect_of_check_eq_some checked]
      rfl
    | none =>
      have carriesOut := opcode.work_carriesOut checked arguments
      generalize opcode.effect arguments values = outcome at carriesOut ⊢
      generalize (opcode.work arguments).on (keep values) = worked at carriesOut ⊢
      cases carriesOut with
      | done effect => rfl
      | undone accident fault told =>
        simp only [told]
        rfl

/-- A stack and its storage answer every request in the same way. No accident goes unhandled, and the
storage after the request is that of the stack after it. -/
theorem perform_stored (stack : Stack) (request : Request) :
    stack.stored.perform request = (.ok (stack.perform request).1, (stack.perform request).2.stored) := by
  cases request with
  | execute opcode arguments => exact operate_stored stack opcode arguments
  | call opcode arguments => exact operate_stored stack opcode arguments.toList
  | values =>
    obtain ⟨_ | values⟩ := stack
    case none => rfl
    case some =>
      simp only [stored, Storage.perform, Option.map_some, toList_keep]
      rfl
  | length =>
    obtain ⟨_ | values⟩ := stack
    case none => rfl
    case some =>
      simp only [stored, Storage.perform, Option.map_some, Option.elim_some, size_keep]
      rfl
  | isClosed => obtain ⟨_ | values⟩ := stack <;> rfl
  | close | leave => rfl

end Stack

end Forth
