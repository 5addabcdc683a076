import UwbRanging.Wire.Reader

namespace UwbRanging

-- The form of an information element's value: an integer of one, two or four bytes, or a counted
-- byte string.
inductive Width where
  | u8
  | u16
  | u32
  | variable
  deriving DecidableEq, Repr

-- The top two bits of an id select the width.
def Width.ofId (id : UInt8) : Width :=
  if id < 0x40 then .u8 else if id < 0x80 then .u16 else if id < 0xc0 then .u32 else .variable

-- What an element tells. An id that is not in the registry is kept.
inductive ElementKind where
  | batt
  | vreg
  | temp
  | vbatt
  | blinks
  | debug
  | unknown (id : UInt8)
  deriving DecidableEq, Repr

namespace ElementKind

def ofId : UInt8 → ElementKind
  | 0x00 => batt
  | 0x01 => vreg
  | 0x02 => temp
  | 0x40 => vbatt
  | 0x80 => blinks
  | 0xff => debug
  | id => unknown id

def id : ElementKind → UInt8
  | batt => 0x00
  | vreg => 0x01
  | temp => 0x02
  | vbatt => 0x40
  | blinks => 0x80
  | debug => 0xff
  | unknown id => id

def name : ElementKind → String
  | batt => "Batt"
  | vreg => "Vreg"
  | temp => "Temp"
  | vbatt => "Vbatt"
  | blinks => "Blinks"
  | debug => "Debug"
  | unknown id => "IE" ++ (Hex.padded 2 id.toNat).map Char.toUpper

-- Rounds to a grid of `1 / scale`, a half away from zero.
def roundTo (value scale : Float) : Float := (value * scale).round / scale

-- The physical quantity of a raw reading: volts, or degrees for `temp`. The regulator voltage and
-- the temperature are signed bytes.
def convert (kind : ElementKind) (raw : UInt32) : Option Float :=
  let signed := Float.ofInt raw.toUInt8.toInt8.toInt
  match kind with
  | vreg => some (roundTo (signed / 173.0 + 3.300) 1000.0)
  | temp => some (roundTo (signed / 1.14 + 23.0) 100.0)
  | vbatt => some (roundTo (raw.toFloat * 5.0 / 32768.0) 1000.0)
  | _ => none

end ElementKind

inductive ElementValue where
  | int (n : UInt32)
  | bytes (data : List UInt8)
  deriving DecidableEq, Repr

-- An element's value for its reader: a physical quantity where the registry knows one.
inductive Reading where
  | physical (quantity : Float)
  | raw (n : UInt32)
  | bytes (data : List UInt8)

-- An information element of a blink.
structure Element where
  id : UInt8
  value : ElementValue
  deriving DecidableEq, Repr

namespace Element

def kind (e : Element) : ElementKind := ElementKind.ofId e.id

def name (e : Element) : String := e.kind.name

def reading (e : Element) : Reading :=
  match e.value with
  | .int n => (e.kind.convert n).elim (.raw n) .physical
  | .bytes data => .bytes data

-- The bytes of a value in the width that the id asks for, if the value has that width.
def valueBytes (e : Element) : Except FrameError (List UInt8) :=
  match Width.ofId e.id, e.value with
  | .u8, .int n => if n < 0x100 then .ok (Wire.u8 n.toUInt8) else .error (.elementWidth e.id)
  | .u16, .int n => if n < 0x10000 then .ok (Wire.u16 n.toUInt16) else .error (.elementWidth e.id)
  | .u32, .int n => .ok (Wire.u32 n)
  | .variable, .bytes data => .ok (Wire.counted data)
  | _, _ => .error (.elementWidth e.id)

def encode (e : Element) : Except FrameError (List UInt8) := return e.id :: (← e.valueBytes)

-- The elements one after another, up to the first that does not have its width.
def encodeAll : List Element → Except FrameError (List UInt8)
  | [] => return []
  | e :: rest => do
    let front ← e.encode
    return front ++ (← encodeAll rest)

def readValue : Width → Reader ElementValue
  | .u8 => return .int (← Reader.u8).toUInt32
  | .u16 => return .int (← Reader.u16).toUInt32
  | .u32 => return .int (← Reader.u32)
  | .variable => return .bytes (← Reader.counted)

def read : Reader Element := do
  let id ← Reader.u8
  return ⟨id, ← readValue (Width.ofId id)⟩

end Element

end UwbRanging
