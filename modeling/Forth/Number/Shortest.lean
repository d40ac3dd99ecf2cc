/-
This file finds the shortest decimal that reads back as a given positive
binary64 number. A decimal reads back if it lies in the interval of the numbers
that round to the given one. Decimals with a common last place form a grid, and
the coarsest grid with a point in the interval gives the fewest digits. If a
grid has such a point, one of the two grid points around the number is one, so
only these two are tried.
-/

import Forth.Number.Dyadic

namespace Forth.Number

/-! ### The interval of a number -/

/-- The numbers that round to a dyadic, in quarters of its last place. The upper end is half a
place away. The lower end is only a quarter away when the significand is the smallest of its
exponent, because the numbers below are twice as dense. The ends belong to the interval when
the significand is even. -/
structure Interval where
  lower : Nat
  centre : Nat
  upper : Nat
  closed : Bool
  deriving DecidableEq, Repr

/-- The interval of the numbers that round to a dyadic. -/
def Dyadic.interval (number : Dyadic) : Interval :=
  let below := if number.significand = Nat.pow 2 52 && leastPlace < number.place then 1 else 2
  { lower := 4 * number.significand - below
    centre := 4 * number.significand
    upper := 4 * number.significand + 2
    closed := number.significand % 2 = 0 }

/-- Whether a multiple of `step` lies in an interval whose ends are measured in `unit`. -/
def Interval.contains (interval : Interval) (unit step multiple : Nat) : Bool :=
  let point := multiple * step
  if interval.closed then interval.lower * unit ≤ point && point ≤ interval.upper * unit
  else interval.lower * unit < point && point < interval.upper * unit

/-! ### Searching the grids -/

/-- A decimal, as a whole number of units of its last place. -/
structure Decimal where
  units : Nat
  place : Int
  deriving DecidableEq, Repr

/-- The point nearest to the number on the decimal grid of a place, among the two around it that
read back. A tie goes to the even one. -/
def Dyadic.onGrid? (number : Dyadic) (place : Int) : Option Nat :=
  let interval := number.interval
  let quarter := number.place - 2
  let unit := Nat.pow 2 quarter.toNat * Nat.pow 10 (-place).toNat
  let step := Nat.pow 2 (-quarter).toNat * Nat.pow 10 place.toNat
  let centre := interval.centre * unit
  let below := centre / step
  let above := below + 1
  match interval.contains unit step below, interval.contains unit step above with
  | true, true => some (nearestEven centre step)
  | true, false => some below
  | false, true => some above
  | false, false => none

/-- The first decimal that reads back, on grids that get finer from the given place on. After the
given number of grids the search ends with the exact place reached and nothing found. -/
def Dyadic.search (number : Dyadic) : Nat → Int → Decimal
  | 0, place => ⟨0, place⟩
  | grids + 1, place =>
    match number.onGrid? place with
    | some units => ⟨units, place⟩
    | none => number.search grids (place - 1)

/-- A place at which the grid is coarser than the number: its bit length times the decimal
logarithm of two, rounded up with something to spare. -/
def Dyadic.coarsePlace (number : Dyadic) : Int :=
  (((number.significand.log2 : Int) + 1 + number.place) * 30103) / 100000 + 2

/-- The shortest decimal that reads back. Seventeen digits always do, so the search, which begins
at most three places above the first digit, never needs more than twenty grids. -/
def Dyadic.shortest (number : Dyadic) : Decimal :=
  number.search 24 number.coarsePlace

end Forth.Number
