import UwbRanging.Engine.Attempt

namespace UwbRanging

-- The statistics of a series.
structure Stats where
  count : Nat := 0
  mean : Float := 0.0
  std : Float := 0.0
  min : Float := 0.0
  max : Float := 0.0

namespace Stats

-- The sum from left to right.
def sum (values : List Float) : Float := values.foldl (· + ·) (-0.0)

-- Population statistics. Those of an empty series are zero. What is not a number is passed over by
-- the extremes, and of equal values they take the last one, which tells between zeros of either sign.
def of (values : List Float) : Stats :=
  if values.isEmpty then {}
  else
    let n := Binary64.ofNat values.length
    let mean := sum values / n
    let variance := sum (values.map fun v => (v - mean) * (v - mean)) / n
    { count := values.length
      mean := mean
      std := variance.sqrt
      min := values.foldl (fun m v => if v ≤ m then v else m) (1.0 / 0.0)
      max := values.foldl (fun m v => if v ≥ m then v else m) (-1.0 / 0.0) }

end Stats

-- The results of a batch of attempts: the values of the successes in order, and the failures by kind.
structure BatchTally where
  distances : List Float := []
  ppms : List Float := []
  timeouts : Nat := 0
  missing : Nat := 0
  outOfRange : Nat := 0
  degenerate : Nat := 0
  transport : Nat := 0

namespace BatchTally

instance : Inhabited BatchTally := ⟨{}⟩

def successes (t : BatchTally) : Nat := t.distances.length

def failures (t : BatchTally) : Nat := t.timeouts + t.missing + t.outOfRange + t.degenerate + t.transport

def attempts (t : BatchTally) : Nat := t.successes + t.failures

def distance (t : BatchTally) : Stats := Stats.of t.distances

def ppm (t : BatchTally) : Stats := Stats.of t.ppms

def addSuccess (t : BatchTally) (o : TwrOutcome) : BatchTally :=
  { t with distances := t.distances ++ [o.distance], ppms := t.ppms ++ [o.clockPpm] }

def addFailure (t : BatchTally) : RangingError → BatchTally
  | .timeout _ => { t with timeouts := t.timeouts + 1 }
  | .missingTimestamp _ _ => { t with missing := t.missing + 1 }
  | .outOfRange _ _ _ => { t with outOfRange := t.outOfRange + 1 }
  | .degenerateTiming => { t with degenerate := t.degenerate + 1 }
  | .transport _ => { t with transport := t.transport + 1 }

-- Counts one attempt. It gives the mark to print: a failure's own, and a dot for every tenth success.
def record (t : BatchTally) (result : Except RangingError TwrOutcome) : Option Char × BatchTally :=
  match result with
  | .ok o =>
    let t := t.addSuccess o
    (if t.successes % 10 = 0 then some '.' else none, t)
  | .error e => (some e.marker, t.addFailure e)

def failureLine (t : BatchTally) : String :=
  s!"failures:     {t.failures} (timeout {t.timeouts}, missing {t.missing}, range {t.outOfRange}, "
    ++ s!"degenerate {t.degenerate}, transport {t.transport})\n"

def distanceLine (s : Stats) : String :=
  let metres := Decimal.fixed 3 false
  "distance:     " ++ metres s.mean ++ " m ± " ++ metres s.std ++ " m  ["
    ++ metres s.min ++ " .. " ++ metres s.max ++ "]\n"

def ppmLine (s : Stats) : String :=
  let signed := Decimal.fixed 3 true
  "clock offset: " ++ signed s.mean ++ " ppm ± " ++ Decimal.fixed 3 false s.std ++ "  ["
    ++ signed s.min ++ " .. " ++ signed s.max ++ "]\n"

-- The summary of a batch.
def text (t : BatchTally) : String :=
  s!"attempts:     {t.attempts}\nsuccesses:    {t.successes}\n" ++ t.failureLine
    ++ if t.successes = 0 then "no successful attempts\n" else distanceLine t.distance ++ ppmLine t.ppm

end BatchTally

end UwbRanging
