import UwbRanging.Wire.Reader

namespace UwbRanging

-- The mask that says which of `count` entries have a long address: one bit for each, eight to a byte. The last byte
-- may have bits to spare.
structure LongMask where
  count : Nat
  packed : List UInt8
  deriving DecidableEq, Repr

namespace LongMask

-- The flags of up to eight entries as a byte, the first one in the lowest bit.
def packByte : List Bool → UInt8
  | [] => 0
  | flag :: rest => flag.toUInt8 + 2 * packByte rest

-- The flags of the next `n` entries, eight to a byte. The unused high bits of the last byte are zero.
def pack : Nat → List Bool → List UInt8
  | 0, _ => []
  | n + 1, flags => packByte (flags.take 8) :: pack n (flags.drop 8)

-- The eight flags of a byte, the lowest bit first.
def unpackByte (byte : UInt8) : List Bool :=
  (List.range 8).map fun i => byte.toNat.testBit i

-- The number of bytes that hold `count` flags.
def width (count : Nat) : Nat := (count + 7) / 8

-- A count byte, then one flag per entry that tells whether the entry has a long address.
-- Callers see to it that the count fits its byte. Entries beyond the 255th would not be announced.
def encode (flags : List Bool) : List UInt8 :=
  let counted := flags.take 255
  UInt8.ofNat counted.length :: pack (width counted.length) counted

def decode : Reader (List Bool) := do
  let count := (← Reader.u8).toNat
  let packed ← Reader.bytes (width count)
  return (packed.flatMap unpackByte).take count

-- The mask as it stands in a frame, before its bits are taken apart.
def read : Reader LongMask := do
  let count := (← Reader.u8).toNat
  return ⟨count, ← Reader.bytes (width count)⟩

def isLong (mask : LongMask) (i : Nat) : Bool := mask.packed[i / 8]?.any fun byte => byte.toNat.testBit (i % 8)

-- The answers for the entries that the mask announces.
def flags (mask : LongMask) : List Bool := (List.range mask.count).map mask.isLong

-- A mask of entries with short addresses only.
def blank (count : Nat) : LongMask := ⟨count, List.replicate (width count) 0⟩

-- The mask with one more entry that has a long address.
def mark (mask : LongMask) (i : Nat) : LongMask :=
  { mask with packed := mask.packed.modify (i / 8) (· ||| 1 <<< UInt8.ofNat (i % 8)) }

-- The mask of these entries, marked one after another.
def ofFlags (flags : List Bool) : LongMask :=
  flags.zipIdx.foldl (fun mask entry => if entry.1 then mask.mark entry.2 else mask) (blank flags.length)

example : encode [true, false, false, false, false, false, false, false, false, true] = [10, 0x01, 0x02] := by
  decide

end LongMask

end UwbRanging
