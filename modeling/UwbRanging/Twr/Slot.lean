namespace UwbRanging

-- The place of a timestamp among the six of a ranging attempt.
inductive Slot where
  | t1
  | t2
  | t3
  | t4
  | t5
  | t6
  deriving DecidableEq, Repr

namespace Slot

def all : List Slot := [t1, t2, t3, t4, t5, t6]

def name : Slot → String
  | t1 => "T1"
  | t2 => "T2"
  | t3 => "T3"
  | t4 => "T4"
  | t5 => "T5"
  | t6 => "T6"

-- The blink, counted from zero, that the slot belongs to.
def blink : Slot → Nat
  | t1 => 0
  | t2 => 0
  | t3 => 1
  | t4 => 1
  | t5 => 2
  | t6 => 2

-- Slots 1, 4 and 5 are read on one clock, slots 2, 3 and 6 on the other.
def onFirstClock : Slot → Bool
  | t1 => true
  | t2 => false
  | t3 => false
  | t4 => true
  | t5 => true
  | t6 => false

end Slot

end UwbRanging
