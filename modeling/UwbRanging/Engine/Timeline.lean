namespace UwbRanging

-- A timeline on which naps follow each other without drift. All times are in nanoseconds on a clock
-- that only moves forward.
structure Timeline where
  start : Nat
  anchor : Nat
  deriving DecidableEq, Repr

namespace Timeline

-- With less than this to go, another sleep is not worth it.
def sleepMin : Nat := 500000

def startAt (now : Nat) : Timeline := ⟨now, now⟩

-- How far the anchor is from the start.
def elapsed (t : Timeline) : Nat := t.anchor - t.start

-- Moves the anchor to the present.
def sync (t : Timeline) (now : Nat) : Timeline := { t with anchor := now }

-- The sleeps until the anchor is near: each takes half of what remains and may take longer, by the
-- next number of `oversleeps`. It gives the time at the end and the number of sleeps.
def sleepUntil (anchor : Nat) (now : Nat) (oversleeps : Nat → Nat) (sleeps : Nat) : Nat × Nat :=
  if h : anchor - now < sleepMin then (now, sleeps)
  else sleepUntil anchor (now + ((anchor - now) / 2 + oversleeps sleeps)) oversleeps (sleeps + 1)
termination_by anchor - now
decreasing_by
  simp only [sleepMin] at h
  omega

-- Moves the anchor by exactly `delay` and sleeps until it is reached. It gives the time after that.
def nap (t : Timeline) (delay : Nat) (now : Nat) (oversleeps : Nat → Nat) : Timeline × Nat :=
  let anchor := t.anchor + delay
  ({ t with anchor := anchor }, (sleepUntil anchor now oversleeps 0).1)

-- What the clock shows after so many sleeps on the way to the anchor, whether or not that many are needed.
def reading (anchor now : Nat) (oversleeps : Nat → Nat) : (sleeps : Nat) → Nat
  | 0 => now
  | sleeps + 1 =>
    let t := reading anchor now oversleeps sleeps
    t + ((anchor - t) / 2 + oversleeps sleeps)

end Timeline

-- One call of `nap`: how long after the call before it comes, by how much it moves the anchor, and by how much each
-- of its sleeps takes longer than it should.
structure Nap where
  idle : Nat
  delay : Nat
  oversleeps : Nat → Nat

-- What is asked of a timeline. The clock runs on between two calls.
inductive TimelineCall where
  | nap (n : Nap)
  | sync (idle : Nat)

-- A timeline, and the time that its clock showed last.
structure ClockedTimeline where
  timeline : Timeline
  now : Nat

namespace ClockedTimeline

def startAt (now : Nat) : ClockedTimeline := ⟨Timeline.startAt now, now⟩

def step (s : ClockedTimeline) : TimelineCall → ClockedTimeline
  | .nap n =>
    let (timeline, now) := s.timeline.nap n.delay (s.now + n.idle) n.oversleeps
    ⟨timeline, now⟩
  | .sync idle => ⟨s.timeline.sync (s.now + idle), s.now + idle⟩

-- The timeline after some calls.
def run (s : ClockedTimeline) (calls : List TimelineCall) : ClockedTimeline := calls.foldl step s

-- What the clock shows after each of the calls.
def readings (s : ClockedTimeline) : List TimelineCall → List Nat
  | [] => []
  | call :: rest => (s.step call).now :: (s.step call).readings rest

end ClockedTimeline

end UwbRanging
