import UwbRanging.Wire.LittleEndian
import UwbRanging.Frame.Error

namespace UwbRanging

-- A byte string of fixed length.
structure Octets (n : Nat) where
  toList : List UInt8
  length_eq : toList.length = n
  deriving DecidableEq, Repr

-- A buffer that is being read: the length of all of it, and the bytes not read yet.
structure Cursor where
  size : Nat
  rest : List UInt8
  deriving DecidableEq, Repr

namespace Cursor

def start (bytes : List UInt8) : Cursor := ⟨bytes.length, bytes⟩

-- The number of bytes read so far.
def consumed (c : Cursor) : Nat := c.size - c.rest.length

end Cursor

-- A step that reads from the front of a buffer.
abbrev Reader := StateT Cursor (Except FrameError)

namespace Reader

-- The next `n` bytes. Where fewer are left, the error says how long the whole buffer would have to
-- be for this read, and how long it is.
def octets (n : Nat) : Reader (Octets n) := fun c =>
  if h : n ≤ c.rest.length then
    .ok (⟨c.rest.take n, by simp [h]⟩, { c with rest := c.rest.drop n })
  else
    .error (.truncated (c.consumed + n) c.size)

def bytes (n : Nat) : Reader (List UInt8) := return (← octets n).toList

-- An unsigned number of `width` bytes, least significant byte first.
def nat (width : Nat) : Reader Nat := return LittleEndian.decode (← bytes width)

def u8 : Reader UInt8 := return UInt8.ofNat (← nat 1)

def u16 : Reader UInt16 := return UInt16.ofNat (← nat 2)

def u32 : Reader UInt32 := return UInt32.ofNat (← nat 4)

-- A radio time: the low 40 bits of a counter.
def u40 : Reader UInt64 := return UInt64.ofNat (← nat 5)

-- A byte string after a byte that gives its length.
def counted : Reader (List UInt8) := do bytes (← u8).toNat

-- All bytes that are left.
def remainder : Reader (List UInt8) := fun c => .ok (c.rest, { c with rest := [] })

-- The same step `n` times.
def times {α : Type} (step : Reader α) : Nat → Reader (List α)
  | 0 => return []
  | n + 1 => return (← step) :: (← times step n)

-- One step for each element of a list, in order.
def each {α β : Type} (step : α → Reader β) : List α → Reader (List β)
  | [] => return []
  | a :: rest => return (← step a) :: (← each step rest)

-- A step that is taken only if its field is announced.
def when {α : Type} (announced : Bool) (step : Reader α) : Reader (Option α) :=
  if announced then return some (← step) else return none

def unsupported {α : Type} (feature : Unsupported) : Reader α := throw (.unsupported feature)

-- Reads a value from the front of a buffer and gives the number of bytes it took.
def run {α : Type} (r : Reader α) (bytes : List UInt8) : Except FrameError (α × Nat) := do
  let (a, c) ← StateT.run r (Cursor.start bytes)
  return (a, c.consumed)

end Reader

namespace Wire

def u8 (v : UInt8) : List UInt8 := [v]

def u16 (v : UInt16) : List UInt8 := LittleEndian.encode 2 v.toNat

def u32 (v : UInt32) : List UInt8 := LittleEndian.encode 4 v.toNat

-- Only the low 40 bits of a radio time are written.
def u40 (v : UInt64) : List UInt8 := LittleEndian.encode 5 v.toNat

-- A length byte can announce 255 bytes. A longer byte string is cut.
def counted (bytes : List UInt8) : List UInt8 :=
  UInt8.ofNat (min bytes.length 255) :: bytes.take 255

end Wire

end UwbRanging
