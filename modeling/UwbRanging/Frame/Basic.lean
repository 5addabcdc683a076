import UwbRanging.Frame.Payload
import UwbRanging.Frame.TimestampLayout

namespace UwbRanging

-- A frame on the air with the timestamp that the interface attached to it.
structure Frame where
  header : Header
  payload : Payload
  timestamp : Option HardwareTimestamp := none
  deriving DecidableEq, Repr

namespace Frame

-- A tag's blink to everyone.
def blink (src : Eui64) (b : Blink) : Frame := { header := Header.broadcastFrom src, payload := .blink b }

-- An anchor's beacon to everyone.
def beacon (src : Eui64) (b : Beacon) : Frame := { header := Header.broadcastFrom src, payload := .beacon b }

-- The blink id that a beacon carries.
def blinkId (f : Frame) : Option UInt64 :=
  match f.payload with
  | .beacon b => some b.reference
  | _ => none

-- The device behind an address, if it is one device and known by its EUI.
def device? (a : Option Address) : Option Eui64 :=
  match a with
  | some a => if a.isBroadcast then none else a.eui?
  | none => none

-- The device at the other end: the sender of what this interface accepts, else the receiver of
-- what it sent.
def peerEui (f : Frame) (me : LocalIdentity) : Option Eui64 :=
  let fromOutside := if f.header.dst.any me.accepts then device? f.header.src else none
  let fromHere := if f.header.src.any me.accepts then device? f.header.dst else none
  fromOutside.or fromHere

-- Reads a frame, and takes its timestamp from the ancillary data.
def decode (bytes : List UInt8) (ancillary : List ControlMessage) : Except FrameError Frame := do
  let (header, length) ← Header.decode bytes
  let payload ← Payload.decode (bytes.drop length)
  return ⟨header, payload, HardwareTimestamp.ofAncillary ancillary⟩

-- What encoding leaves: the bytes or the error, the frame with the number it went out with, and
-- the counter.
structure Encoded where
  outcome : Except FrameError (List UInt8)
  frame : Frame
  counter : SequenceCounter

-- Writes a frame, with the next number of the counter if it has none. The number is given before
-- the payload is written, so that a payload that cannot be written uses one up.
def encode (f : Frame) (counter : SequenceCounter) : Encoded :=
  let head := f.header.encode counter
  let outcome := do
    let front ← head.outcome
    return front ++ (← f.payload.encode)
  ⟨outcome, { f with header := head.header }, head.counter⟩

end Frame

end UwbRanging
