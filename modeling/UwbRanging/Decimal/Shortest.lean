import UwbRanging.Decimal.Fixed

namespace UwbRanging.Decimal

-- A positive number and the ends of the interval of reals that round to it, all over one
-- denominator. The ends belong to the interval if the significand is even.
structure Rounding where
  value : Nat
  low : Nat
  high : Nat
  den : Nat
  closed : Bool
  deriving DecidableEq, Repr

namespace Rounding

-- Below a power of two the numbers are twice as dense, except at the bottom of the range.
def of (significand : Nat) (exponent : Int) : Rounding :=
  let below := if significand = Binary64.leadingBit ∧ -1074 < exponent then 1 else 2
  let scale := 1 <<< (exponent - 2).toNat
  { value := 4 * significand * scale
    low := (4 * significand - below) * scale
    high := (4 * significand + 2) * scale
    den := 1 <<< (2 - exponent).toNat
    closed := significand % 2 = 0 }

-- Whether `num / den` lies in the interval.
def contains (r : Rounding) (num den : Nat) : Bool :=
  let above := if r.closed then r.low * den ≤ num * r.den else r.low * den < num * r.den
  let below := if r.closed then num * r.den ≤ r.high * den else num * r.den < r.high * den
  above && below

-- The point of the grid of multiples of `10 ^ grid` that is nearest to the value among those of
-- its two neighbours that round to it. Of two equally near ones the larger.
def onGrid (r : Rounding) (grid : Int) : Option Nat :=
  let up := tenTo grid.toNat
  let down := tenTo (-grid).toNat
  let floor := r.value * down / (r.den * up)
  let rest := r.value * down % (r.den * up)
  let lower := r.contains (floor * up) down
  let upper := r.contains ((floor + 1) * up) down
  if upper ∧ (¬ lower ∨ r.den * up ≤ 2 * rest) then some (floor + 1)
  else if lower then some floor
  else none

-- The coarsest of the next grids, each ten times finer than the one before, that has a point.
def search (r : Rounding) : Nat → Int → Nat × Int
  | 0, grid => ((r.onGrid grid).getD 0, grid)
  | fuel + 1, grid =>
    match r.onGrid grid with
    | some digits => (digits, grid)
    | none => r.search fuel (grid - 1)

-- Seventeen significant digits always suffice. The search starts one place above the value's first.
def shortest (r : Rounding) : Nat × Int :=
  let places : Int := if r.den ≤ r.value then (Nat.toDigits 10 (r.value / r.den)).length
    else -((Nat.toDigits 10 (r.den / r.value)).length : Int) + 1
  r.search 20 places

end Rounding

-- `digits * 10 ^ exponent` without an exponent: as an integer, or with a point and no trailing zeros.
def positional (digits : Nat) (exponent : Int) : String :=
  if 0 ≤ exponent then pointed 0 (digits * tenTo exponent.toNat)
  else pointed (-exponent).toNat digits

-- The decimal text of a number with the fewest digits that read back as it. It has no exponent, and
-- an integer has no point.
def shortest (x : Float) : String :=
  if x.isNaN then "NaN"
  else
    let sign := signText false (Binary64.isNegative x)
    if x.isInf then sign ++ "inf"
    else if Binary64.significand x = 0 then sign ++ "0"
    else
      let (digits, exponent) := (Rounding.of (Binary64.significand x) (Binary64.exponent x)).shortest
      sign ++ positional digits exponent

end UwbRanging.Decimal
