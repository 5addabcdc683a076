import UwbRanging.Engine.Tally

namespace UwbRanging

-- The failures that a batch tells apart.
inductive FailureKind where
  | timeout
  | missing
  | outOfRange
  | degenerate
  | transport
  deriving DecidableEq, Repr

namespace FailureKind

def marker : FailureKind → Char
  | timeout => 'T'
  | missing => '?'
  | outOfRange => '*'
  | degenerate => '0'
  | transport => 'x'

end FailureKind

namespace RangingError

def kind : RangingError → FailureKind
  | timeout _ => .timeout
  | missingTimestamp _ _ => .missing
  | outOfRange _ _ _ => .outOfRange
  | degenerateTiming => .degenerate
  | transport _ => .transport

end RangingError

namespace BatchTally

def counter (t : BatchTally) : FailureKind → Nat
  | .timeout => t.timeouts
  | .missing => t.missing
  | .outOfRange => t.outOfRange
  | .degenerate => t.degenerate
  | .transport => t.transport

-- The tally after a series of results.
def recordAll (t : BatchTally) (results : List (Except RangingError TwrOutcome)) : BatchTally :=
  results.foldl (fun t result => (t.record result).2) t

-- What is given for each result of a series.
def marks (t : BatchTally) : List (Except RangingError TwrOutcome) → List (Option Char)
  | [] => []
  | result :: rest => (t.record result).1 :: (t.record result).2.marks rest

-- The progress line of a series.
def printed (t : BatchTally) (results : List (Except RangingError TwrOutcome)) : List Char :=
  (t.marks results).filterMap id

def failed (results : List (Except RangingError TwrOutcome)) : List RangingError :=
  results.filterMap fun
    | .ok _ => none
    | .error e => some e

section Series

variable (o : TwrOutcome) (e : RangingError) (results : List (Except RangingError TwrOutcome))

end Series

section Step

variable (t : BatchTally) (o : TwrOutcome) (e : RangingError)

end Step

section Run

variable (t : BatchTally) (results : List (Except RangingError TwrOutcome))

theorem recordAll_cons (result : Except RangingError TwrOutcome) :
    t.recordAll (result :: results) = (t.record result).2.recordAll results := rfl

theorem printed_cons (result : Except RangingError TwrOutcome) :
    t.printed (result :: results) = (t.record result).1.toList ++ (t.record result).2.printed results := by
  rw [printed, marks]
  cases (t.record result).1 <;> rfl

end Run

section Fresh

variable (results : List (Except RangingError TwrOutcome))

end Fresh

end BatchTally

end UwbRanging
