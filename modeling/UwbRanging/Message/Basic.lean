import UwbRanging.Error
import UwbRanging.Frame.Timestamp

namespace UwbRanging

abbrev BlinkId := UInt64

-- A request to send a beacon. The reference is in hexadecimal.
structure BeaconRequest where
  beacon : String
  subtype : UInt8
  deriving DecidableEq, Repr

namespace BeaconRequest

-- The beacon subtype of ranging blinks.
def blinkSubtype : UInt8 := 9

-- The reference of a blink is its id, the highest byte first.
def forBlink (id : BlinkId) : BeaconRequest :=
  ⟨Hex.encode (LittleEndian.encode 8 id.toNat).reverse, blinkSubtype⟩

-- The id that a reference of up to eight bytes spells.
def blinkId (r : BeaconRequest) : Except TransportError BlinkId :=
  match Hex.decode r.beacon with
  | .error fault => .error (.badReply (.beaconHex fault))
  | .ok bytes =>
    if 8 < bytes.length then .error (.badReply (.beaconLength bytes.length))
    else .ok (UInt64.ofNat (LittleEndian.decode bytes.reverse))

end BeaconRequest

-- What a call is about.
structure RpcArgs where
  attr : Option DeviceAttr := none
  value : Option AttrValue := none
  deriving DecidableEq, Repr

-- A call, or the reply to it under the same number.
structure RpcCall where
  func : String
  seqn : UInt32
  args : RpcArgs := {}
  deriving DecidableEq, Repr

namespace RpcCall

def getEui : String := "GETEUI"

def getAttr : String := "GETDWATTR"

def setAttr : String := "SETDWATTR"

end RpcCall

-- One device's report of a frame that it sent or heard. The clocks are in nanoseconds, and the
-- frame is in hexadecimal.
structure TimestampReport where
  anchor : Eui64
  src : Option Eui64
  swts : UInt64
  hwts : UInt64
  hires : BitVec 128
  info : Diagnostics
  frame : String
  deriving DecidableEq, Repr

-- The nanoseconds of a time, or zero if they do not fit.
def Timespec.wholeNanos (t : Timespec) : UInt64 :=
  if 0 ≤ t.nanos ∧ t.nanos < UInt64.size then UInt64.ofNat t.nanos.toNat else 0

def Timespec.ofNanos (ns : UInt64) : Timespec :=
  ⟨Int64.ofNat (ns.toNat / 1000000000), Int64.ofNat (ns.toNat % 1000000000)⟩

namespace TimestampReport

def ofTimestamp (anchor : Eui64) (src : Option Eui64) (ts : HardwareTimestamp) (frame : List UInt8) : TimestampReport where
  anchor := anchor
  src := src
  swts := ts.sw.wholeNanos
  hwts := ts.hw.wholeNanos
  hires := BitVec.ofNat 128 ts.hires.value
  info := ts.info
  frame := Hex.encode frame

def timestamp (r : TimestampReport) : HardwareTimestamp where
  sw := Timespec.ofNanos r.swts
  hw := Timespec.ofNanos r.hwts
  hires := Hires.ofValue r.hires.toNat
  info := r.info

def frameBytes (r : TimestampReport) : Except TransportError (List UInt8) :=
  match Hex.decode r.frame with
  | .ok bytes => .ok bytes
  | .error fault => .error (.badReply (.frameHex fault))

end TimestampReport

-- A message between the host and a radio daemon.
inductive Message where
  | beacon (request : BeaconRequest)
  | rpc (call : RpcCall)
  | tx (report : TimestampReport)
  | rx (report : TimestampReport)
  deriving DecidableEq, Repr

end UwbRanging
