namespace UwbRanging.Bits

-- The word whose only set bit is bit `n`.
def bit (n : UInt32) : UInt32 := 1 <<< n

-- The word whose low `count` bits are set. A count of 32 or more sets them all.
def lowMask (count : UInt32) : UInt32 :=
  if 32 ≤ count then 0xffffffff else (1 <<< count) - 1

-- The unsigned field of `count` bits that starts at bit `offset`.
def get (word offset count : UInt32) : UInt32 :=
  (word >>> offset) &&& lowMask count

-- The low `count` bits of `value`, moved up to bit `offset`. Bits of `value` above the field are
-- dropped, so that fields with disjoint ranges can be combined with `|||`.
def place (value offset count : UInt32) : UInt32 :=
  (value &&& lowMask count) <<< offset

def test (word n : UInt32) : Bool := (word &&& bit n) != 0

-- A flag as a field of one bit.
def placeFlag (flag : Bool) (offset : UInt32) : UInt32 := place flag.toUInt32 offset 1

-- Excess bits are dropped and do not reach the neighbouring field.
example : place 0xff 4 4 = 0xf0 := by decide

example : get 0b1100_1000_0100_0001 10 2 = 0b10 := by decide

end UwbRanging.Bits
