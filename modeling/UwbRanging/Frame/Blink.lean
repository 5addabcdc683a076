import UwbRanging.Bits
import UwbRanging.Frame.Element

namespace UwbRanging

structure BlinkFlags where
  listen : Bool := false
  accel : Bool := false
  dcin : Bool := false
  salted : Bool := false
  deriving DecidableEq, Repr

namespace BlinkFlags

def ofByte (b : UInt8) : BlinkFlags :=
  let w := b.toUInt32
  { listen := Bits.test w 7, accel := Bits.test w 6, dcin := Bits.test w 5, salted := Bits.test w 4 }

-- The flags take the high half of the byte. The low half is zero.
def toByte (f : BlinkFlags) : UInt8 :=
  (Bits.placeFlag f.listen 7 ||| Bits.placeFlag f.accel 6
    ||| Bits.placeFlag f.dcin 5 ||| Bits.placeFlag f.salted 4).toUInt8

@[simp] theorem ofByte_toByte (f : BlinkFlags) : ofByte f.toByte = f := by
  rcases f with ⟨listen, accel, dcin, salted⟩
  cases listen <;> cases accel <;> cases dcin <;> cases salted <;> decide

end BlinkFlags

-- A tag's blink. An empty list of elements is written as such and differs from no list.
structure Blink where
  flags : BlinkFlags := {}
  cookie : Option (Octets 16) := none
  elements : Option (List Element) := none
  deriving DecidableEq, Repr

namespace Blink

-- Bit 3 announces a cookie, bit 2 a list of elements.
def subtype (b : Blink) : UInt8 :=
  (Bits.placeFlag b.cookie.isSome 3 ||| Bits.placeFlag b.elements.isSome 2).toUInt8

-- The first element of that name.
def element? (b : Blink) (name : String) : Option Element :=
  (b.elements.getD []).find? fun e => e.name == name

def encodeElements (es : List Element) : Except FrameError (List UInt8) :=
  if 255 < es.length then .error (.unsupported .tooManyElements)
  else return UInt8.ofNat es.length :: (← Element.encodeAll es)

def encodeBody (b : Blink) : Except FrameError (List UInt8) := do
  let elements ← match b.elements with
    | none => pure []
    | some es => encodeElements es
  return b.flags.toByte :: (b.cookie.elim [] Octets.toList ++ elements)

def readElements : Reader (List Element) := do Element.read.times (← Reader.u8).toNat

-- Bit 1 announces extended elements. A blink that has them is refused once all before them is read.
def readBody (subtype : UInt8) : Reader Blink := do
  let announced := fun n => Bits.test subtype.toUInt32 n
  let flags := BlinkFlags.ofByte (← Reader.u8)
  let cookie ← Reader.when (announced 3) (Reader.octets 16)
  let elements ← Reader.when (announced 2) readElements
  if announced 1 then Reader.unsupported .extendedElements
  return { flags := flags, cookie := cookie, elements := elements }

end Blink

end UwbRanging
