import UwbRanging.Bits
import UwbRanging.Wire.LongMask
import UwbRanging.Frame.Header

namespace UwbRanging

-- An anchor's beacon. Subtype 0 is a plain one, 1 to 3 are steps of a ranging handshake.
-- A ranging blink carries its id as the reference.
structure Beacon where
  subtype : UInt8
  flags : UInt8
  reference : UInt64
  deriving DecidableEq, Repr

namespace Beacon

-- The beacon of a ranging blink. Only the low half of the subtype fits a frame.
def forBlink (id : UInt64) (subtype : UInt8) : Beacon := ⟨subtype &&& 0x0f, 0, id⟩

def encodeBody (b : Beacon) : List UInt8 := b.flags :: LittleEndian.encode 8 b.reference.toNat

def readBody (subtype : UInt8) : Reader Beacon := do
  let flags ← Reader.u8
  return ⟨subtype, flags, UInt64.ofNat (← Reader.nat 8)⟩

end Beacon

structure RangingRequest where
  subtype : UInt8
  flags : UInt8
  deriving DecidableEq, Repr

-- An anchor's answer to a ranging request: when it sends, and when it heard each of its peers.
-- One-way ranging has no list of peers.
structure RangingResponse where
  txTime : UInt64
  rxTimes : Option (List (Address × UInt64))
  deriving DecidableEq, Repr

-- More peers than a count byte can announce are refused.
def checkPeers (count : Nat) : Except FrameError Unit :=
  if 255 < count then .error (.unsupported (.tooManyPeers count)) else .ok ()

namespace RangingResponse

def isOneWay (r : RangingResponse) : Bool := r.rxTimes.isNone

-- Bit 3 marks one-way ranging.
def subtype (r : RangingResponse) : UInt8 := (Bits.placeFlag r.isOneWay 3).toUInt8

-- The receive time reported for an interface under one of its addresses.
def localRxTime (r : RangingResponse) (me : LocalIdentity) : Option UInt64 :=
  ((r.rxTimes.getD []).find? fun p => me.isMine p.1).map Prod.snd

def encodePeers (peers : List (Address × UInt64)) : List UInt8 :=
  LongMask.encode (peers.map fun p => p.1.isLong) ++ peers.flatMap fun p => p.1.toWire ++ Wire.u40 p.2

def encodeBody (r : RangingResponse) : Except FrameError (List UInt8) :=
  match r.rxTimes with
  | none => return Wire.u40 r.txTime
  | some peers => do
    checkPeers peers.length
    return Wire.u40 r.txTime ++ encodePeers peers

def readPeer (long : Bool) : Reader (Address × UInt64) :=
  return (← Header.readAddress long, ← Reader.u40)

def readPeers : Reader (List (Address × UInt64)) := do Reader.each readPeer (← LongMask.decode)

def readBody (subtype : UInt8) : Reader RangingResponse := do
  let txTime ← Reader.u40
  return ⟨txTime, ← Reader.when (!Bits.test subtype.toUInt32 3) readPeers⟩

end RangingResponse

end UwbRanging
