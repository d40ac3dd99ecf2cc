/-
This file defines the values that programs compute with: integers of any size
and binary64 floating point numbers. Sums, differences and products of integers
are exact. A quotient is always floating point, rounded once from the exact
ratio. Where an integer meets a floating point number it is rounded first, and
an integer too large for that has no result.
-/

import Forth.Number.Dyadic

namespace Forth

/-- A value on the stack or in a program. -/
inductive Number where
  | int (value : Int)
  | float (value : Float)
  deriving DecidableEq

namespace Number

/-! ### Conversion -/

/-- The floating point number nearest to an integer, if there is one. -/
def roundInt? (value : Int) : Option Float :=
  roundRatio? (value < 0) value.natAbs 1

/-- A number as floating point, rounded if it is an integer. -/
def toFloat? : Number → Option Float
  | .int value => roundInt? value
  | .float value => some value

/-! ### Arithmetic -/

/-- An operation with one rule for two integers and another for all other pairs, which are
brought to floating point first. -/
def combine (whole : Int → Int → Int) (floating : Float → Float → Float) :
    Number → Number → Option Number
  | .int left, .int right => some (.int (whole left right))
  | left, right => do
    let left ← left.toFloat?
    let right ← right.toFloat?
    return .float (floating left right)

/-- The sum of two numbers. -/
def add? : Number → Number → Option Number :=
  combine (· + ·) (· + ·)

/-- The difference of two numbers. -/
def subtract? : Number → Number → Option Number :=
  combine (· - ·) (· - ·)

/-- The product of two numbers. -/
def multiply? : Number → Number → Option Number :=
  combine (· * ·) (· * ·)

/-- The quotient of two integers, of which the second is not zero. It is negative when exactly
one of them is, even if it is a zero. -/
def quotient? (dividend divisor : Int) : Option Float :=
  roundRatio? (decide (dividend < 0) != decide (divisor < 0)) dividend.natAbs divisor.natAbs

/-- The quotient of two numbers, of which the second is not zero. -/
def divide? : Number → Number → Option Number
  | .int dividend, .int divisor => (quotient? dividend divisor).map .float
  | dividend, divisor => do
    let dividend ← dividend.toFloat?
    let divisor ← divisor.toFloat?
    return .float (dividend / divisor)

/-- Zero, whatever its sign. -/
def isZero : Number → Bool
  | .int value => value == 0
  | .float value => value == 0

/-! ### Equality of values -/

/-- Whether a floating point number has exactly the value of an integer. Both zeros have the value
of the integer zero. -/
def hasIntValue (value : Float) (int : Int) : Bool :=
  let bits := value.toBits.toNat
  let magnitude := bits % Nat.pow 2 63
  let signMatches := int == 0 || decide (int < 0) == decide (Nat.pow 2 63 ≤ bits)
  decide (magnitude < infinityBits) && signMatches && (Dyadic.ofBits magnitude).isNat int.natAbs

/-- Whether two numbers have the same value. An integer can have the value of a floating point
number, the two zeros have the same value, and nothing has the value of a number that is
undefined. -/
def sameValue : Number → Number → Bool
  | .int left, .int right => left == right
  | .float left, .float right => left == right
  | .int left, .float right => hasIntValue right left
  | .float left, .int right => hasIntValue left right

end Number

end Forth
