import UwbRanging.Bits
import UwbRanging.Wire.Reader
import UwbRanging.Frame.Address

namespace UwbRanging

-- The rolling frame counter of one radio interface.
structure SequenceCounter where
  next : UInt8 := 0
  deriving DecidableEq, Repr, Inhabited

-- The current number, and the counter after it. 255 is followed by 0.
def SequenceCounter.draw (c : SequenceCounter) : UInt8 × SequenceCounter := (c.next, ⟨c.next + 1⟩)

inductive MacType where
  | beacon
  | data
  | ack
  | command
  | reserved (bits : UInt8)
  deriving DecidableEq, Repr

namespace MacType

def ofBits (bits : UInt32) : MacType :=
  match bits &&& 7 with
  | 0 => beacon
  | 1 => data
  | 2 => ack
  | 3 => command
  | n => reserved n.toUInt8

def bits : MacType → UInt32
  | beacon => 0
  | data => 1
  | ack => 2
  | command => 3
  | reserved n => n.toUInt32 &&& 7

end MacType

-- A MAC header. The frame control word is not held: it is derived from these fields whenever the
-- header is written.
structure Header where
  type : MacType := .data
  version : UInt8 := 1
  security : Bool := false
  pending : Bool := false
  ackRequest : Bool := false
  -- asks to leave the source PAN out, which is done only if both PANs are equal
  panCompression : Bool := true
  -- absent until the header is sent
  seq : Option UInt8 := none
  dstPan : UInt16 := 0xffff
  dst : Option Address := none
  srcPan : UInt16 := 0xffff
  src : Option Address := none
  deriving DecidableEq, Repr

namespace Header

-- The header of a frame that one device sends to everyone.
def broadcastFrom (src : Eui64) : Header :=
  { dst := some Address.broadcast, src := some (.extended src) }

def srcEui (h : Header) : Option Eui64 := h.src.bind Address.eui?

def dstEui (h : Header) : Option Eui64 := h.dst.bind Address.eui?

def compressesPan (h : Header) : Bool := h.panCompression && h.srcPan == h.dstPan

def modeOf (a : Option Address) : AddressMode := a.elim .absent Address.mode

-- The frame control word as it goes on the air.
def frameControl (h : Header) : UInt16 :=
  (Bits.place h.type.bits 0 3
    ||| Bits.placeFlag h.security 3
    ||| Bits.placeFlag h.pending 4
    ||| Bits.placeFlag h.ackRequest 5
    ||| Bits.placeFlag h.compressesPan 6
    ||| Bits.place (modeOf h.dst).bits 10 2
    ||| Bits.place h.version.toUInt32 12 2
    ||| Bits.place (modeOf h.src).bits 14 2).toUInt16

-- The header with a number of its own: the one it has, else the next one of the counter.
def number (h : Header) (counter : SequenceCounter) : Header × SequenceCounter :=
  match h.seq with
  | some _ => (h, counter)
  | none =>
    let (n, counter) := counter.draw
    ({ h with seq := some n }, counter)

def dstBytes (h : Header) : List UInt8 :=
  match h.dst with
  | none => []
  | some dst => Wire.u16 h.dstPan ++ dst.toWire

def srcBytes (h : Header) : List UInt8 :=
  match h.src with
  | none => []
  | some src => (if h.compressesPan then [] else Wire.u16 h.srcPan) ++ src.toWire

-- The bytes of a header that has its number. One that has none is written with number 0.
def toWire (h : Header) : List UInt8 :=
  Wire.u16 h.frameControl ++ Wire.u8 (h.seq.getD 0) ++ h.dstBytes ++ h.srcBytes

-- The length of a header, added up while it is written: frame control and number, the destination
-- behind its PAN, and the source, whose PAN may be left out.
def length (h : Header) : Nat :=
  let dst := match h.dst with
    | none => 0
    | some dst => 2 + dst.length
  let src := match h.src with
    | none => 0
    | some src => (if h.compressesPan then 0 else 2) + src.length
  3 + dst + src

-- What encoding leaves: its bytes or its error, the number of bytes that it reports, the header with
-- the number it went out with, and the counter.
structure Encoded where
  outcome : Except FrameError (List UInt8)
  length : Nat
  header : Header
  counter : SequenceCounter

-- A header that asks for security is refused before it gets a number, and nothing is written.
def encode (h : Header) (counter : SequenceCounter) : Encoded :=
  if h.security then ⟨.error (.unsupported .security), 0, h, counter⟩
  else
    let (h, counter) := h.number counter
    ⟨.ok h.toWire, h.length, h, counter⟩

def readAddress (long : Bool) : Reader Address :=
  if long then return .extended (Eui64.ofWire (← Reader.bytes 8))
  else return .short (← Reader.u16)

def readField : AddressMode → Reader (Option Address)
  | .absent => return none
  | .short => return some (← readAddress false)
  | .extended => return some (← readAddress true)

-- The destination PAN and address. Without an address there is no PAN either, and it counts as the
-- broadcast PAN.
def readDst (mode : AddressMode) : Reader (UInt16 × Option Address) :=
  match mode with
  | .absent => return (0xffff, none)
  | mode => return (← Reader.u16, ← readField mode)

-- The source PAN and address. A compressed PAN is that of the destination.
def readSrc (mode : AddressMode) (compressed : Bool) (dstPan : UInt16) : Reader (UInt16 × Option Address) :=
  match mode with
  | .absent => return (if compressed then dstPan else 0xffff, none)
  | mode => do
    let pan ← if compressed then pure dstPan else Reader.u16
    return (pan, ← readField mode)

def read : Reader Header := do
  let control := (← Reader.u16).toUInt32
  let seq ← Reader.u8
  if Bits.test control 3 then Reader.unsupported .security
  let compressed := Bits.test control 6
  let (dstPan, dst) ← readDst (AddressMode.ofBits (Bits.get control 10 2))
  let (srcPan, src) ← readSrc (AddressMode.ofBits (Bits.get control 14 2)) compressed dstPan
  return {
    type := MacType.ofBits (Bits.get control 0 3)
    version := (Bits.get control 12 2).toUInt8
    security := false
    pending := Bits.test control 4
    ackRequest := Bits.test control 5
    panCompression := compressed
    seq := some seq
    dstPan := dstPan
    dst := dst
    srcPan := srcPan
    src := src }

-- The header at the front of a frame, and its length.
def decode (bytes : List UInt8) : Except FrameError (Header × Nat) := read.run bytes

end Header

end UwbRanging
