import UwbRanging.Decimal.Binary64
import UwbRanging.Error
import UwbRanging.Frame.Timestamp

namespace UwbRanging

-- The speed of light in vacuum, in metres per second.
def speedOfLight : Float := 299792458.0

-- The rate of the radio counter.
def radioClockHz : Float := 63.8976e9

-- High-resolution times count 2^32 to the nanosecond.
def hiresClockHz : Float := 4294967296.0e9

-- The difference of two radio counts of 40 bits, as a signed number: counts may wrap in between. The highest of the
-- 40 bits is the sign.
def rawDiff (later earlier : UInt64) : Int :=
  let d := (later - earlier) &&& counterMask
  if d &&& 0x8000000000 ≠ 0 then (d.toNat : Int) - counterRange else d.toNat

-- The six times of an attempt in one unit. Times 1, 4 and 5 are of one clock and 2, 3 and 6 of the
-- other, and only times of one clock are subtracted from each other.
structure TwrTimestamps where
  t1 : Int
  t2 : Int
  t3 : Int
  t4 : Int
  t5 : Int
  t6 : Int
  deriving DecidableEq, Repr

-- What an attempt tells about the flight time and the clocks.
structure TwrEstimate where
  tofCounts : Float
  tofSeconds : Float
  -- how fast the clock of times 2, 3 and 6 runs against the other, in parts per million
  clockPpm : Float
  roundTripSeconds : Float

namespace TwrTimestamps

-- Radio counts. Each clock counts from its own first time, so that its wraps do no harm.
def ofRaw (t1 t2 t3 t4 t5 t6 : UInt64) : TwrTimestamps :=
  ⟨0, 0, rawDiff t3 t2, rawDiff t4 t1, rawDiff t5 t1, rawDiff t6 t2⟩

-- How many numbers a word of 128 bits holds.
def wideRange : Nat := 0x100000000000000000000000000000000

-- What a signed word of 128 bits holds of a number: one that is too wide for it comes round.
def wrap128 (n : Int) : Int := n.bmod wideRange

-- High-resolution times, which need no unwrapping. They are words of 128 bits, read as signed ones.
def ofHires (t1 t2 t3 t4 t5 t6 : Nat) : TwrTimestamps :=
  ⟨wrap128 t1, wrap128 t2, wrap128 t3, wrap128 t4, wrap128 t5, wrap128 t6⟩

def t41 (t : TwrTimestamps) : Int := t.t4 - t.t1

def t32 (t : TwrTimestamps) : Int := t.t3 - t.t2

def t54 (t : TwrTimestamps) : Int := t.t5 - t.t4

def t63 (t : TwrTimestamps) : Int := t.t6 - t.t3

def t51 (t : TwrTimestamps) : Int := t.t5 - t.t1

def t62 (t : TwrTimestamps) : Int := t.t6 - t.t2

-- The numbers that the estimate is made of, as integers of any size.
def numerator (t : TwrTimestamps) : Int := t.t41 * t.t63 - t.t32 * t.t54

def denominator (t : TwrTimestamps) : Int := t.t51 + t.t62

-- Four times the average of both round trips without their reply delays.
def naiveSum (t : TwrTimestamps) : Int := (t.t41 - t.t32) + (t.t63 - t.t54)

-- Whether a number fits a signed word of 128 bits.
def fits128 (n : Int) : Bool :=
  -0x80000000000000000000000000000000 ≤ n && n < 0x80000000000000000000000000000000

-- A sum of words, if it fits a word. One that does not stops the program, which checks its sums.
def checked128 (n : Int) : Option Int := if fits128 n then some n else none

-- The intervals between the times, each in a word.
structure Intervals where
  t41 : Int
  t32 : Int
  t54 : Int
  t63 : Int
  t51 : Int
  t62 : Int
  deriving DecidableEq, Repr

def intervals (t : TwrTimestamps) : Option Intervals := do
  return ⟨← checked128 t.t41, ← checked128 t.t32, ← checked128 t.t54, ← checked128 t.t63, ← checked128 t.t51,
    ← checked128 t.t62⟩

namespace Intervals

def denominator (i : Intervals) : Option Int := checked128 (i.t51 + i.t62)

-- Whether both products of the numerator fit a word.
def productsFit (i : Intervals) : Bool := fits128 (i.t41 * i.t63) && fits128 (i.t32 * i.t54)

def numerator (i : Intervals) : Option Int := checked128 (i.t41 * i.t63 - i.t32 * i.t54)

-- The numerator as a float. If one of its products is too wide, it is computed in floats, but nothing makes up for a
-- difference that is too wide.
def numeratorFloat (i : Intervals) : Option Float :=
  if i.productsFit then i.numerator.map Binary64.ofInt
  else some (Binary64.ofInt i.t41 * Binary64.ofInt i.t63 - Binary64.ofInt i.t32 * Binary64.ofInt i.t54)

-- By how much the second clock counts more than the first.
def lead (i : Intervals) : Option Int := checked128 (i.t62 - i.t51)

def naiveSum (i : Intervals) : Option Int := do
  checked128 ((← checked128 (i.t41 - i.t32)) + (← checked128 (i.t63 - i.t54)))

end Intervals

-- The flight time in counts, free of clock drift to the first order. Where a sum stops the program there is neither
-- a value nor an error.
def tofRatio (t : TwrTimestamps) : Option (Except RangingError Float) := do
  let i ← t.intervals
  let denominator ← i.denominator
  if denominator = 0 then return .error .degenerateTiming
  else return .ok ((← i.numeratorFloat) / Binary64.ofInt denominator)

def naiveTof (t : TwrTimestamps) : Option Float := do
  let sum ← (← t.intervals).naiveSum
  return Binary64.ofInt sum / 4.0

def clockPpm (t : TwrTimestamps) : Option (Except RangingError Float) := do
  let i ← t.intervals
  if i.t62 = 0 then return .error .degenerateTiming
  else return .ok (Binary64.ofInt (← i.lead) / Binary64.ofInt i.t62 * 1e6)

def estimate (t : TwrTimestamps) (clockHz : Float) : Option (Except RangingError TwrEstimate) := ExceptT.run do
  let counts ← ExceptT.mk t.tofRatio
  let ppm ← ExceptT.mk t.clockPpm
  let roundTrip ← checked128 t.t41
  return ⟨counts, counts / clockHz, ppm, Binary64.ofInt roundTrip / clockHz⟩

end TwrTimestamps

namespace TwrEstimate

-- The distance of two devices, in metres.
def twoWay (e : TwrEstimate) (c : Float) : Float := e.tofSeconds * c

-- The detour through the responder that a listener sees, in metres, less the known part of it.
def threeWay (e : TwrEstimate) (c : Float) (baseline : Option Float) : Float :=
  2.0 * e.tofSeconds * c - baseline.getD 0.0

end TwrEstimate

end UwbRanging
