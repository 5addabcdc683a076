import UwbRanging.Decimal.Literal

namespace UwbRanging.Decimal

-- The digits of `n`, at least `width` of them.
def paddedDigits (width n : Nat) : List Char :=
  let digits := Nat.toDigits 10 n
  List.replicate (width - digits.length) '0' ++ digits

-- `units` of the last of `places` decimal places, with a point if there are any places.
def pointed (places units : Nat) : String :=
  let digits := paddedDigits (places + 1) units
  let whole := digits.take (digits.length - places)
  let fraction := digits.drop (digits.length - places)
  if places = 0 then String.ofList whole else String.ofList (whole ++ '.' :: fraction)

-- The sign of a number's text: a minus for a negative number or a negative zero, and a plus for
-- the others if one is asked for.
def signText (plus negative : Bool) : String :=
  if negative then "-" else if plus then "+" else ""

-- A number with exactly `places` decimal places. Its exact binary value is rounded, and an exact
-- half goes to the even neighbour. What is not a number has no sign.
def fixed (places : Nat) (plus : Bool) (x : Float) : String :=
  if x.isNaN then "NaN"
  else
    let sign := signText plus (Binary64.isNegative x)
    if x.isInf then sign ++ "inf"
    else
      let (num, den) := Binary64.magnitude x
      sign ++ pointed places (Binary64.divRound (num * tenTo places) den)

end UwbRanging.Decimal

namespace UwbRanging.Text

-- `nanos` in a unit of `10 ^ places` nanoseconds, without trailing zeros after the point.
def inUnit (places nanos : Nat) (unit : String) : String :=
  let fraction := (Decimal.paddedDigits places (nanos % Decimal.tenTo places)).reverse.dropWhile (· == '0')
  let whole := toString (nanos / Decimal.tenTo places)
  if places = 0 ∨ fraction.isEmpty then whole ++ unit
  else whole ++ "." ++ String.ofList fraction.reverse ++ unit

-- A time span in the largest unit of which it has at least one.
def duration (nanos : Nat) : String :=
  if 1000000000 ≤ nanos then inUnit 9 nanos "s"
  else if 1000000 ≤ nanos then inUnit 6 nanos "ms"
  else if 1000 ≤ nanos then inUnit 3 nanos "µs"
  else inUnit 0 nanos "ns"

end UwbRanging.Text
