import UwbRanging.Decimal.Shortest
import UwbRanging.Frame.Address
import UwbRanging.Radio.Attribute
import UwbRanging.Twr.Slot

namespace UwbRanging

-- Why a text is not hexadecimal. A foreign byte is shown as the character of the same number.
def Hex.Fault.message : Hex.Fault → String
  | oddLength => "Odd number of digits"
  | foreign byte place => s!"Invalid character {Text.quotedChar (Char.ofNat byte.toNat)} at position {place}"

-- What is wrong with a message that could be read.
inductive BadReply where
  | beaconHex (fault : Hex.Fault)
  | beaconLength (bytes : Nat)
  | frameHex (fault : Hex.Fault)
  | unknownType (type : String)
  | eui (error : FrameError)
  | euiValue (value : Option AttrValue)
  | function (reply call : String)
  | noValue (attr : DeviceAttr)
  | other (text : String)
  deriving DecidableEq, Repr

namespace BadReply

def valueText : Option AttrValue → String
  | none => "None"
  | some (.int n) => "Some(Int(" ++ toString n.toInt ++ "))"
  | some (.text s) => "Some(Text(" ++ Text.quoted s ++ "))"

def message : BadReply → String
  | beaconHex fault => "beacon " ++ fault.message
  | beaconLength bytes => s!"beacon reference of {bytes} bytes"
  | frameHex fault => "frame hex: " ++ fault.message
  | unknownType type => "unknown message type " ++ Text.quoted type
  | eui error => "EUI: " ++ error.message
  | euiValue value => "EUI reply " ++ valueText value
  | function reply call => reply ++ " reply to " ++ call ++ " call"
  | noValue attr => "no value for " ++ attr.name
  | other text => text

end BadReply

-- Why a message could not be exchanged with a device. Times are in nanoseconds.
inductive TransportError where
  -- the message could not be sent
  | io
  -- the datagram is no JSON of the form that its type asks for
  | malformed
  | callTimeout (func : String) (waited : Nat)
  | unknownDevice (device : Eui64)
  | badReply (reply : BadReply)
  | invalidAttribute (value : InvalidValue)
  | frame (error : FrameError)
  deriving DecidableEq, Repr

namespace TransportError

def message : TransportError → String
  | io => "socket"
  | malformed => "message encoding"
  | callTimeout func waited => func ++ " call timed out after " ++ Text.duration waited
  | unknownDevice device => "unknown device " ++ device.text
  | badReply reply => "bad reply: " ++ reply.message
  | invalidAttribute v => "invalid value " ++ Text.quoted v.value ++ " for attribute " ++ v.attr.name
  | frame error => "frame: " ++ error.message

end TransportError

-- Why a ranging attempt gave no distance.
inductive RangingError where
  | missingTimestamp (slot : Slot) (device : Eui64)
  | outOfRange (distance min max : Float)
  | degenerateTiming
  -- no report came within that many nanoseconds
  | timeout (waited : Nat)
  | transport (error : TransportError)

namespace RangingError

def message : RangingError → String
  | missingTimestamp slot device => "missing timestamp " ++ slot.name ++ " from " ++ device.text
  | outOfRange distance min max => "distance " ++ Decimal.fixed 3 false distance ++ " m outside ["
      ++ Decimal.shortest min ++ ", " ++ Decimal.shortest max ++ "] m"
  | degenerateTiming => "degenerate timing: zero denominator"
  | timeout waited => "no reports within " ++ Text.duration waited
  | transport error => "transport: " ++ error.message

-- The mark of a failed attempt in the progress line of a batch.
def marker : RangingError → Char
  | timeout _ => 'T'
  | missingTimestamp _ _ => '?'
  | outOfRange _ _ _ => '*'
  | degenerateTiming => '0'
  | transport _ => 'x'

-- Whether reports are missing or late, as opposed to bad numbers.
def isTimeout : RangingError → Bool
  | timeout _ => true
  | missingTimestamp _ _ => true
  | _ => false

end RangingError

end UwbRanging
