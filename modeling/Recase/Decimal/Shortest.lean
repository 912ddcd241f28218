namespace Recase

/-!
# The shortest decimal of a binary number

A finite double precision number stands for an interval of reals, those that
are nearer to it than to its neighbours.  Its shortest decimal is the one
with the fewest digits in that interval, and among those the one nearest to
the number itself.  Decimals with few digits are the points of a coarse grid,
so the grids are tried from the coarsest on, each by a factor of ten finer
than the one before.  A grid has a point in the interval only if one of the
two points around the number is in it, and only these are looked at.

All comparisons are made between natural numbers, after both sides have been
multiplied by the denominators.
-/

/-- The number `digits · 10 ^ exponent`. -/
structure Decimal where
  digits : Nat
  exponent : Int
  deriving DecidableEq

namespace Decimal

/-- An interval of reals around a number, all in units of `2 ^ scale`.  The
ends belong to it if `closed` is set. -/
structure Interval where
  low : Nat
  center : Nat
  high : Nat
  scale : Int
  closed : Bool

/-- The interval of the double precision number `mantissa · 2 ^ scale`.  At a
power of two the neighbour below is only half as far away as the one above. -/
def Interval.around (mantissa : Nat) (scale : Int) (narrow : Bool) : Interval where
  low := 4 * mantissa - (if narrow then 1 else 2)
  center := 4 * mantissa
  high := 4 * mantissa + 2
  scale := scale - 2
  closed := mantissa % 2 == 0

/-- The factor by which `units · 2 ^ scale` is multiplied to compare it with
points of the grid of `10 ^ exponent`. -/
def unitFactor (scale exponent : Int) : Nat :=
  Nat.pow 2 scale.toNat * Nat.pow 10 (-exponent).toNat

/-- The factor by which a point of the grid of `10 ^ exponent` is multiplied to
compare it with `units · 2 ^ scale`. -/
def gridFactor (scale exponent : Int) : Nat :=
  Nat.pow 2 (-scale).toNat * Nat.pow 10 exponent.toNat

/-- Whether the point `point · 10 ^ exponent` lies in an interval. -/
def Interval.holds (interval : Interval) (exponent : Int) (point : Nat) : Bool :=
  let value := point * gridFactor interval.scale exponent
  let unit := unitFactor interval.scale exponent
  if interval.closed then
    decide (interval.low * unit <= value) && decide (value <= interval.high * unit)
  else
    decide (interval.low * unit < value) && decide (value < interval.high * unit)

/-- The point of the grid of `10 ^ exponent` that lies in an interval and is
nearest to its center.  If two are equally near, the even one is taken. -/
def Interval.gridPoint? (interval : Interval) (exponent : Int) : Option Nat :=
  let grid := gridFactor interval.scale exponent
  let center := interval.center * unitFactor interval.scale exponent
  let below := center / grid
  let above := below + 1
  match interval.holds exponent below, interval.holds exponent above with
  | true, true =>
      let distanceBelow := center - below * grid
      let distanceAbove := above * grid - center
      if distanceBelow < distanceAbove then some below
      else if distanceAbove < distanceBelow then some above
      else if below % 2 = 0 then some below
      else some above
  | true, false => some below
  | false, true => some above
  | false, false => none

/-- The first hit on the grids of `10 ^ exponent`, `10 ^ (exponent - 1)` and
so on. -/
def Interval.shortestFrom (interval : Interval) : Nat -> Int -> Option Decimal
  | 0, _ => none
  | grids + 1, exponent =>
      match interval.gridPoint? exponent with
      | some point => some { digits := point, exponent := exponent }
      | none => interval.shortestFrom grids (exponent - 1)

/-- The shortest decimal of the positive number `mantissa · 2 ^ scale`.  The
first grid is too coarse for the number, and seventeen digits always suffice,
so the number of grids is not felt. -/
def shortest (mantissa : Nat) (scale : Int) (narrow : Bool) : Decimal :=
  let start := (scale + 53) * 30103 / 100000 + 1
  ((Interval.around mantissa scale narrow).shortestFrom 40 start).getD ⟨0, 0⟩

end Decimal
end Recase
