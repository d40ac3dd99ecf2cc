/-
This file defines the stack of a running program. Its values are listed top
first. An operation takes values from the top, puts its result there and may
print a text. If it can not be performed, nothing changes. A stack that was
closed has no values any more and refuses every operation.
-/

import Forth.Token
import Forth.Diagnostic

namespace Forth

/-! ### What can go wrong -/

/-- A fault of the token itself, which no program that was read from a text has. -/
inductive Misuse where
  /-- A push has no number to push. -/
  | missingArgument
  /-- The body of a token that is not a definition was asked for. -/
  | noBody
  deriving DecidableEq, Repr

/-- Why a token is not executed. -/
inductive Fault where
  | halt (error : RuntimeError)
  | misuse (cause : Misuse)
  deriving DecidableEq, Repr

/-! ### Operations on values -/

/-- How many values an operation takes from the top. -/
def Opcode.arity : Opcode → Nat
  | .push => 0
  | .pop | .duplicate | .drop => 1
  | .add | .subtract | .multiply | .divide | .swap | .over => 2

/-- How many arguments an operation takes. Only a push takes one, the number to push. -/
def Opcode.parameters : Opcode → Nat
  | .push => 1
  | _ => 0

/-- What an operation does: the text that it prints, which may be empty, and the values that it
leaves on the stack. -/
structure Effect where
  output : String
  values : List Number
  deriving DecidableEq

namespace Effect

/-- An operation that prints nothing. -/
def silent (values : List Number) : Except Fault Effect :=
  .ok ⟨"", values⟩

/-- An operation whose result is too large does nothing. -/
def ofResult (result : Option Number) (rest : List Number) : Except Fault Effect :=
  match result with
  | some value => silent (value :: rest)
  | none => .error (.halt .numberTooLarge)

end Effect

/-- Applies an operation to values. A quotient looks at the divisor, the second value, before
anything else. -/
def Opcode.effect (opcode : Opcode) (arguments values : List Number) : Except Fault Effect :=
  match opcode, values with
  | .push, values =>
    match arguments with
    | value :: _ => Effect.silent (value :: values)
    | [] => .error (.misuse .missingArgument)
  | .pop, top :: rest =>
    match top.text? with
    | some text => .ok ⟨text, rest⟩
    | none => .error (.halt .numberTooLarge)
  | .duplicate, top :: rest => Effect.silent (top :: top :: rest)
  | .drop, _ :: rest => Effect.silent rest
  | .add, top :: second :: rest => Effect.ofResult (top.add? second) rest
  | .subtract, top :: second :: rest => Effect.ofResult (top.subtract? second) rest
  | .multiply, top :: second :: rest => Effect.ofResult (top.multiply? second) rest
  | .divide, top :: second :: rest =>
    if second.isZero then .error (.halt .divisionByZero)
    else Effect.ofResult (top.divide? second) rest
  | .swap, top :: second :: rest => Effect.silent (second :: top :: rest)
  | .over, top :: second :: rest => Effect.silent (second :: top :: second :: rest)
  | opcode, _ => .error (.halt (if opcode.arity = 1 then .stackEmpty else .notEnoughElements))

/-! ### The stack -/

/-- A stack: its values, top first, or nothing after it was closed. -/
structure Stack where
  contents? : Option (List Number)
  deriving DecidableEq

namespace Stack

/-- An open stack with the given values, top first. -/
def ofList (values : List Number) : Stack :=
  ⟨some values⟩

/-- An open stack without values. -/
def empty : Stack :=
  ofList []

/-- A stack that was closed. -/
def closed : Stack :=
  ⟨none⟩

/-- Whether a stack was closed. -/
def isClosed (stack : Stack) : Bool :=
  stack.contents?.isNone

/-- The number of values. A closed stack has none. -/
def length (stack : Stack) : Nat :=
  (stack.contents?.getD []).length

/-- The values of an open stack, top first. -/
def values (stack : Stack) : Except RuntimeError (List Number) :=
  match stack.contents? with
  | some values => .ok values
  | none => .error .stackClosed

/-- Performs an operation: the text that it prints and the stack that it leaves. -/
def execute (stack : Stack) (opcode : Opcode) (arguments : List Number) :
    Except Fault (String × Stack) :=
  match stack.contents? with
  | none => .error (.halt .stackClosed)
  | some values =>
    match opcode.effect arguments values with
    | .ok effect => .ok (effect.output, ofList effect.values)
    | .error fault => .error fault

/-! ### Requests -/

/-- What can be asked of a stack. -/
inductive Request where
  /-- Perform an operation with any arguments. -/
  | execute (opcode : Opcode) (arguments : List Number)
  /-- Perform an operation by its own name, with exactly the arguments that it takes. -/
  | call (opcode : Opcode) (arguments : Vector Number opcode.parameters)
  | values
  | length
  | isClosed
  | close
  /-- Use the stack for a while and close it at the end. -/
  | leave

/-- What a stack answers. -/
inductive Answer where
  | text (text : String)
  | values (values : List Number)
  | length (count : Nat)
  | truth (holds : Bool)
  | nothing
  deriving DecidableEq

/-- The answer to a request for an operation, and the stack that it leaves. -/
def answerOperation (stack : Stack) (opcode : Opcode) (arguments : List Number) :
    Except Fault Answer × Stack :=
  match stack.execute opcode arguments with
  | .ok (text, next) => (.ok (.text text), next)
  | .error fault => (.error fault, stack)

/-- The answer to a request, and the stack after it. -/
def perform (stack : Stack) : Request → Except Fault Answer × Stack
  | .execute opcode arguments => stack.answerOperation opcode arguments
  | .call opcode arguments => stack.answerOperation opcode arguments.toList
  | .values =>
    match stack.values with
    | .ok values => (.ok (.values values), stack)
    | .error error => (.error (.halt error), stack)
  | .length => (.ok (.length stack.length), stack)
  | .isClosed => (.ok (.truth stack.isClosed), stack)
  | .close => (.ok .nothing, closed)
  | .leave => (.ok (.truth true), closed)

end Stack

end Forth
