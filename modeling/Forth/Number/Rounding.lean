/-
This file rounds exact ratios of natural numbers to binary64 floating point.
A positive ratio is rounded to the nearest number with 53 significant bits,
a tie going to the one whose last bit is zero, and numbers too small to have
53 significant bits keep the last place that binary64 has for them. The result
is the bit pattern of the magnitude, so whether a ratio is too large is a
comparison of natural numbers.
-/

namespace Forth.Number

/-! ### Rounding a ratio to a whole number -/

/-- The whole number nearest to `numerator / denominator`. A tie goes to the even neighbour. -/
def nearestEven (numerator denominator : Nat) : Nat :=
  let quotient := numerator / denominator
  let twice := 2 * (numerator % denominator)
  if twice < denominator then quotient
  else if denominator < twice then quotient + 1
  else quotient + quotient % 2

/-! ### The last place of a ratio -/

/-- The numerator of a ratio divided by a power of two. -/
def scaledNumerator (numerator : Nat) (exponent : Int) : Nat :=
  numerator * Nat.pow 2 (-exponent).toNat

/-- The denominator of a ratio divided by a power of two. -/
def scaledDenominator (denominator : Nat) (exponent : Int) : Nat :=
  denominator * Nat.pow 2 exponent.toNat

/-- The largest exponent whose power of two is at most the ratio. The bit lengths of numerator
and denominator settle it up to one. -/
def floorLog (numerator denominator : Nat) : Int :=
  let estimate : Int := (numerator.log2 : Int) - (denominator.log2 : Int)
  if scaledDenominator denominator estimate ≤ scaledNumerator numerator estimate then estimate
  else estimate - 1

/-- The exponent of the last place of the smallest positive numbers. -/
def leastPlace : Int := -1074

/-- The exponent of the last place that binary64 keeps of a ratio. -/
def lastPlace (numerator denominator : Nat) : Int :=
  max (floorLog numerator denominator - 52) leastPlace

/-! ### Bit patterns -/

/-- The bit pattern of infinity, one more than the pattern of the largest finite number. -/
def infinityBits : Nat := 2047 * Nat.pow 2 52

/-- The bit pattern that the ratio rounds to. Each step of the last place adds one to the
exponent field, and a significand that rounds up to 54 bits carries into that field, which is
exactly what it has to do. -/
def ratioBits (numerator denominator : Nat) : Nat :=
  if numerator = 0 then 0
  else
    let place := lastPlace numerator denominator
    (place - leastPlace).toNat * Nat.pow 2 52 +
      nearestEven (scaledNumerator numerator place) (scaledDenominator denominator place)

/-- The number with the given sign and magnitude. -/
def ofBits (negative : Bool) (bits : Nat) : Float :=
  Float.ofBits (UInt64.ofNat (if negative then Nat.pow 2 63 + bits else bits))

/-- The ratio with the given sign, rounded. There is no result when the magnitude rounds to
something beyond the largest finite number. -/
def roundRatio? (negative : Bool) (numerator denominator : Nat) : Option Float :=
  let bits := ratioBits numerator denominator
  if bits < infinityBits then some (ofBits negative bits) else none

end Forth.Number
