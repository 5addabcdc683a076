import UwbRanging.Wire.LittleEndian
import UwbRanging.Text.Character
import UwbRanging.Frame.Error

namespace UwbRanging

-- The two-bit addressing mode of a frame control field.
inductive AddressMode where
  | absent
  | short
  | extended
  deriving DecidableEq, Repr

namespace AddressMode

-- Mode 1 is reserved and stands for an absent address.
def ofBits (bits : UInt32) : AddressMode :=
  match bits &&& 3 with
  | 2 => short
  | 3 => extended
  | _ => absent

def bits : AddressMode → UInt32
  | absent => 0
  | short => 2
  | extended => 3

-- The number of address bytes that the mode announces.
def length : AddressMode → Nat
  | absent => 0
  | short => 2
  | extended => 8

@[simp] theorem ofBits_bits (m : AddressMode) : ofBits m.bits = m := by
  cases m <;> decide

end AddressMode

-- A 64-bit device address, held as the number that its printed digits spell.
structure Eui64 where
  value : UInt64
  deriving DecidableEq, Repr, Inhabited

namespace Eui64

-- On the air the least significant byte comes first.
def toWire (e : Eui64) : List UInt8 := LittleEndian.encode 8 e.value.toNat

def ofWire (bytes : List UInt8) : Eui64 := ⟨UInt64.ofNat (LittleEndian.decode bytes)⟩

-- The bytes in the order in which they are printed.
def bytes (e : Eui64) : List UInt8 := e.toWire.reverse

def ofBytes (bytes : List UInt8) : Eui64 := ofWire bytes.reverse

def text (e : Eui64) : String := Hex.encode e.bytes

def broadcast : Eui64 := ⟨0xffffffffffffffff⟩

@[simp] theorem length_toWire (e : Eui64) : e.toWire.length = 8 := by simp [toWire]

@[simp] theorem ofWire_toWire (e : Eui64) : ofWire e.toWire = e := by
  have h := e.value.toNat_lt
  have hmod : e.value.toNat % LittleEndian.span 8 = e.value.toNat := Nat.mod_eq_of_lt h
  rw [ofWire, toWire, LittleEndian.decode_encode, hmod, UInt64.ofNat_toNat]

end Eui64

-- An address field that is present. An absent field is `none` of `Option Address`, so that mode
-- and length always agree.
inductive Address where
  | short (value : UInt16)
  | extended (eui : Eui64)
  deriving DecidableEq, Repr

namespace Address

def broadcast : Address := short 0xffff

def extendedBroadcast : Address := extended Eui64.broadcast

def mode : Address → AddressMode
  | short _ => .short
  | extended _ => .extended

def length (a : Address) : Nat := a.mode.length

def isLong : Address → Bool
  | short _ => false
  | extended _ => true

def isBroadcast (a : Address) : Bool := a == broadcast || a == extendedBroadcast

def eui? : Address → Option Eui64
  | short _ => none
  | extended e => some e

def toWire : Address → List UInt8
  | short v => LittleEndian.encode 2 v.toNat
  | extended e => e.toWire

-- The bytes in the order in which they are printed.
def bytes (a : Address) : List UInt8 := a.toWire.reverse

def text (a : Address) : String := Hex.encode a.bytes

-- An address has two bytes or eight.
def ofBytes (bytes : List UInt8) : Except FrameError Address :=
  match bytes.length with
  | 2 => .ok (short (UInt16.ofNat (LittleEndian.decode bytes.reverse)))
  | 8 => .ok (extended (Eui64.ofBytes bytes))
  | n => .error (.addressLength n)

theorem length_toWire (a : Address) : a.toWire.length = a.length := by
  cases a <;> simp [toWire, length, mode, AddressMode.length]

-- What is left of an address text once the blanks around it and all colons are taken away.
def digitsOf (text : String) : String := String.ofList ((Text.trimChars text.toList).filter (· != ':'))

-- The bytes that an address text spells.
def bytesOf (text : String) : Except FrameError (List UInt8) :=
  match Hex.decode (digitsOf text) with
  | .ok bytes => .ok bytes
  | .error _ => .error (.invalidHex (digitsOf text))

def parse (text : String) : Except FrameError Address := do
  ofBytes (← bytesOf text)

end Address

def Eui64.parse (text : String) : Except FrameError Eui64 := do
  let bytes ← Address.bytesOf text
  if bytes.length = 8 then return Eui64.ofBytes bytes else throw (.addressLength bytes.length)

-- The addresses under which a radio interface is reached.
structure LocalIdentity where
  address : Eui64
  shortAddress : Option UInt16 := none
  deriving DecidableEq, Repr

namespace LocalIdentity

def isMine (me : LocalIdentity) : Address → Bool
  | .extended e => e == me.address
  | .short v => me.shortAddress == some v

-- An interface accepts what is sent to one of its own addresses and what is sent to everyone.
def accepts (me : LocalIdentity) (a : Address) : Bool := a.isBroadcast || me.isMine a

end LocalIdentity

end UwbRanging
