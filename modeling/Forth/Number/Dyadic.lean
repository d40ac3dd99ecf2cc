/-
This file gives the exact value of a floating point number. Every finite
magnitude is a whole number, its significand, times a power of two.
-/

import Forth.Number.Rounding

namespace Forth.Number

/-- A magnitude, as a significand times a power of two. -/
structure Dyadic where
  significand : Nat
  place : Int
  deriving DecidableEq, Repr

namespace Dyadic

/-- The value of a finite magnitude, from its bit pattern. The smallest magnitudes have no leading
bit and share their last place with the ones above them. -/
def ofBits (bits : Nat) : Dyadic :=
  let field : Nat := bits / Nat.pow 2 52
  if field = 0 then ⟨bits, leastPlace⟩
  else ⟨Nat.pow 2 52 + bits % Nat.pow 2 52, (field : Int) - 1 + leastPlace⟩

/-- Whether the value is the given whole number. -/
def isNat (number : Dyadic) (value : Nat) : Bool :=
  scaledNumerator value number.place == scaledDenominator number.significand number.place

end Dyadic

end Forth.Number
