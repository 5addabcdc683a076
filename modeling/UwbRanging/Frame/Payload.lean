import UwbRanging.Frame.Blink
import UwbRanging.Frame.Settings
import UwbRanging.Frame.Timing

namespace UwbRanging

-- The type nibble of a version 1 payload.
inductive PayloadType where
  | blink
  | beacon
  | rangingRequest
  | rangingResponse
  | configRequest
  | configResponse
  | timing
  deriving DecidableEq, Repr

namespace PayloadType

def ofBits : UInt8 → Option PayloadType
  | 0 => some blink
  | 1 => some beacon
  | 2 => some rangingRequest
  | 3 => some rangingResponse
  | 4 => some configRequest
  | 5 => some configResponse
  | 15 => some timing
  | _ => none

def bits : PayloadType → UInt8
  | blink => 0
  | beacon => 1
  | rangingRequest => 2
  | rangingResponse => 3
  | configRequest => 4
  | configResponse => 5
  | timing => 15

def name : PayloadType → String
  | blink => "Blink"
  | beacon => "Beacon"
  | rangingRequest => "RangingRequest"
  | rangingResponse => "RangingResponse"
  | configRequest => "ConfigRequest"
  | configResponse => "ConfigResponse"
  | timing => "Timing"

@[simp] theorem ofBits_bits (t : PayloadType) : ofBits t.bits = some t := by
  cases t <;> rfl

end PayloadType

-- What follows the MAC header.
inductive Payload where
  | blink (b : Blink)
  | beacon (b : Beacon)
  | rangingRequest (r : RangingRequest)
  | rangingResponse (r : RangingResponse)
  | configRequest (r : SettingsRequest)
  | configResponse (r : SettingsResponse)
  | timing (t : TimingReport)
  -- version 2: the bytes after the magic byte
  | encrypted (data : List UInt8)
  -- another protocol: all bytes, none of the two magic bytes in front
  | raw (data : List UInt8)
  deriving DecidableEq, Repr

namespace Payload

-- The first byte of a version 1 payload, and of a version 2 payload.
def magic1 : UInt8 := 0x37

def magic2 : UInt8 := 0x38

def type? : Payload → Option PayloadType
  | blink _ => some .blink
  | beacon _ => some .beacon
  | rangingRequest _ => some .rangingRequest
  | rangingResponse _ => some .rangingResponse
  | configRequest _ => some .configRequest
  | configResponse _ => some .configResponse
  | timing _ => some .timing
  | encrypted _ => none
  | raw _ => none

-- The subtype nibble as it goes on the air. It follows from which optional fields are present,
-- where a type has such.
def subtype? : Payload → Option UInt8
  | blink b => some b.subtype
  | beacon b => some (b.subtype &&& 0x0f)
  | rangingRequest r => some (r.subtype &&& 0x0f)
  | rangingResponse r => some r.subtype
  | configRequest r => some r.subtype
  | configResponse r => some r.subtype
  | timing t => some t.subtype
  | encrypted _ => none
  | raw _ => none

-- Type and subtype share a byte.
def typeByte (type : PayloadType) (subtype : UInt8) : UInt8 :=
  (Bits.place type.bits.toUInt32 4 4 ||| Bits.place subtype.toUInt32 0 4).toUInt8

-- A version 1 payload around the body of its type.
def tagged (type : PayloadType) (subtype : UInt8) (body : List UInt8) : List UInt8 :=
  magic1 :: typeByte type subtype :: body

def encode : Payload → Except FrameError (List UInt8)
  | blink b => return tagged .blink b.subtype (← b.encodeBody)
  | beacon b => return tagged .beacon b.subtype b.encodeBody
  | rangingRequest r => return tagged .rangingRequest r.subtype [r.flags]
  | rangingResponse r => return tagged .rangingResponse r.subtype (← r.encodeBody)
  | configRequest r => return tagged .configRequest r.subtype (← r.encodeBody)
  | configResponse r => return tagged .configResponse r.subtype (← r.encodeBody)
  | timing t => return tagged .timing t.subtype (← t.encodeBody)
  | encrypted data => return magic2 :: data
  | raw data =>
    match data.head? with
    | some b => if b = magic1 ∨ b = magic2 then .error (.unsupported (.rawMagic b)) else .ok data
    | none => .ok data

-- The body of a version 1 payload.
def readBody (type : PayloadType) (subtype : UInt8) : Reader Payload :=
  match type with
  | .blink => return blink (← Blink.readBody subtype)
  | .beacon => return beacon (← Beacon.readBody subtype)
  | .rangingRequest => return rangingRequest ⟨subtype, ← Reader.u8⟩
  | .rangingResponse => return rangingResponse (← RangingResponse.readBody subtype)
  | .configRequest => return configRequest (← SettingsRequest.readBody subtype)
  | .configResponse => return configResponse (← SettingsResponse.readBody subtype)
  | .timing => return timing (← TimingReport.readBody subtype)

def readTagged : Reader Payload := do
  let byte := (← Reader.u8).toUInt32
  let kind := (Bits.get byte 4 4).toUInt8
  match PayloadType.ofBits kind with
  | some type => readBody type (Bits.get byte 0 4).toUInt8
  | none => Reader.unsupported (.payloadType kind)

-- The payload that starts with `first`.
def readFrom (first : UInt8) : Reader Payload := do
  if first = magic1 then readTagged
  else if first = magic2 then return encrypted (← Reader.remainder)
  else return raw (first :: (← Reader.remainder))

-- The payload of a frame's remaining bytes. What follows a version 1 payload is not looked at.
def decode (bytes : List UInt8) : Except FrameError Payload :=
  if bytes.isEmpty then .ok (raw [])
  else do
    let (payload, _) ← Reader.run (do readFrom (← Reader.u8)) bytes
    return payload

end Payload

end UwbRanging
