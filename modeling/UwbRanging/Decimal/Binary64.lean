namespace UwbRanging.Binary64

-- The quotient rounded to the nearest integer, an exact half to the even neighbour.
def divRound (num den : Nat) : Nat :=
  let q := num / den
  let r := num % den
  if den < 2 * r ∨ (2 * r = den ∧ q % 2 = 1) then q + 1 else q

-- The bit pattern of positive infinity.
def infinityBits : Nat := 0x7ff0000000000000

-- A normal significand has 53 bits, of which the leading one is not stored.
def leadingBit : Nat := 0x10000000000000

-- The power of two whose multiples are the binary64 numbers near `num / den`: it leaves the
-- quotient 53 bits, and never goes below that of the subnormal numbers.
def gridExponent (num den : Nat) : Int :=
  let estimate : Int := (num.log2 : Int) - (den.log2 : Int) - 52
  let fits := if 0 ≤ estimate then den <<< (estimate.toNat + 52) ≤ num
    else den <<< 52 ≤ num <<< (-estimate).toNat
  max (if fits then estimate else estimate - 1) (-1074)

-- The bits of the number nearest to `num / den`, a tie to the even neighbour. Rounding up to the
-- next power of two carries into the exponent field, and past the largest number into infinity.
def nearestBits (num den : Nat) : Nat :=
  if num = 0 then 0 else
    let e := gridExponent num den
    let q := if 0 ≤ e then divRound num (den <<< e.toNat) else divRound (num <<< (-e).toNat) den
    min ((e + 1074).toNat * leadingBit + q) infinityBits

def ofRatio (num den : Nat) : Float := Float.ofBits (UInt64.ofNat (nearestBits num den))

-- The nearest number to an integer of any size.
def ofNat (n : Nat) : Float := ofRatio n 1

def ofInt (n : Int) : Float := if n < 0 then -ofNat n.natAbs else ofNat n.natAbs

def isNegative (x : Float) : Bool := x.toBits >>> 63 != 0

-- A finite number's magnitude is `significand * 2 ^ exponent`.
def significand (x : Float) : Nat :=
  let bits := x.toBits.toNat
  if bits / leadingBit % 2048 = 0 then bits % leadingBit else leadingBit + bits % leadingBit

def exponent (x : Float) : Int :=
  max ((x.toBits.toNat / leadingBit % 2048 : Nat) : Int) 1 - 1075

-- The magnitude of a finite number as a quotient of naturals.
def magnitude (x : Float) : Nat × Nat :=
  if 0 ≤ exponent x then (significand x <<< (exponent x).toNat, 1)
  else (significand x, 1 <<< (-exponent x).toNat)

-- The number with its fraction cut off.
def truncate (x : Float) : Int :=
  let (num, den) := magnitude x
  if isNegative x then -((num / den : Nat) : Int) else ((num / den : Nat) : Int)

-- The number cut to an integer and pressed into the range `low` to `high`. What is not a number
-- gives zero.
def clampToInt (x : Float) (low high : Int) : Int :=
  if x.isNaN then 0
  else if x.isInf then (if isNegative x then low else high)
  else max low (min high (truncate x))

-- The number cut to a natural number below `size`.
def toNatBelow (x : Float) (size : Nat) : Nat := (clampToInt x 0 (size - 1)).toNat

end UwbRanging.Binary64
