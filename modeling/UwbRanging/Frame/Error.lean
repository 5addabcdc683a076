import UwbRanging.Text.Hex

namespace UwbRanging

-- What a well-formed frame may hold that this library does not read or write.
inductive Unsupported where
  | security
  | extendedElements
  | tooManyElements
  | tooManyKeys
  | tooManyPeers (count : Nat)
  | configRequestSubtype (subtype : UInt8)
  | configResponseSubtype (subtype : UInt8)
  | mixedTimingEntries
  | payloadType (kind : UInt8)
  | rawMagic (byte : UInt8)
  deriving DecidableEq, Repr

namespace Unsupported

def message : Unsupported → String
  | security => "802.15.4 security"
  | extendedElements => "blink extended information elements"
  | tooManyElements => "more than 255 IEs"
  | tooManyKeys => "more than 255 config keys"
  | tooManyPeers count => s!"{count} peer entries, at most 255 fit the count byte"
  | configRequestSubtype subtype => s!"config request subtype {subtype.toNat}"
  | configResponseSubtype subtype => s!"config response subtype {subtype.toNat}"
  | mixedTimingEntries => "timing entries with mixed optional fields"
  | payloadType kind => s!"tail frame type {kind.toNat}"
  | rawMagic byte => "raw payload starting with Tail magic 0x" ++ Hex.padded 2 byte.toNat

end Unsupported

-- Why a frame, or an address, could not be read or written. Each concerns one frame only.
inductive FrameError where
  -- a declared field ends `need` bytes into a buffer of `available` bytes
  | truncated (need available : Nat)
  | unsupported (feature : Unsupported)
  -- an address has two bytes or eight
  | addressLength (bytes : Nat)
  -- an information element whose value does not have the width that its id asks for
  | elementWidth (id : UInt8)
  | invalidHex (text : String)
  deriving DecidableEq, Repr

namespace FrameError

def message : FrameError → String
  | truncated need available => s!"truncated frame: need {need} bytes, have {available}"
  | unsupported feature => "unsupported feature: " ++ feature.message
  | addressLength bytes => s!"invalid address length: {bytes} bytes"
  | elementWidth id =>
    "information element 0x" ++ Hex.padded 2 id.toNat ++ " value does not match its declared width"
  | invalidHex text => "invalid hex address: " ++ text

end FrameError

end UwbRanging
