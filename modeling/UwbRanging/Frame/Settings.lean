import UwbRanging.Wire.Reader

namespace UwbRanging

-- A device setting: its key and its value as bytes.
structure Setting where
  key : UInt16
  value : List UInt8
  deriving DecidableEq, Repr

namespace Setting

def encodeKeys (keys : List UInt16) : Except FrameError (List UInt8) :=
  if 255 < keys.length then .error (.unsupported .tooManyKeys)
  else .ok (UInt8.ofNat keys.length :: keys.flatMap Wire.u16)

def encodeAll (settings : List Setting) : Except FrameError (List UInt8) :=
  if 255 < settings.length then .error (.unsupported .tooManyKeys)
  else .ok (UInt8.ofNat settings.length :: settings.flatMap fun s => Wire.u16 s.key ++ Wire.counted s.value)

def readKeys : Reader (List UInt16) := do Reader.u16.times (← Reader.u8).toNat

def read : Reader Setting := return ⟨← Reader.u16, ← Reader.counted⟩

def readAll : Reader (List Setting) := do read.times (← Reader.u8).toNat

end Setting

-- What a host asks of a device's settings.
inductive SettingsRequest where
  | reset (magic : UInt16)
  | enumerate (iterator : UInt16)
  | read (keys : List UInt16)
  | write (settings : List Setting)
  | delete (keys : List UInt16)
  | salt (bytes : Octets 16)
  | test (data : List UInt8)
  deriving DecidableEq, Repr

namespace SettingsRequest

def subtype : SettingsRequest → UInt8
  | reset _ => 0
  | enumerate _ => 1
  | read _ => 2
  | write _ => 3
  | delete _ => 4
  | salt _ => 5
  | test _ => 15

def encodeBody : SettingsRequest → Except FrameError (List UInt8)
  | reset magic => .ok (Wire.u16 magic)
  | enumerate iterator => .ok (Wire.u16 iterator)
  | read keys => Setting.encodeKeys keys
  | write settings => Setting.encodeAll settings
  | delete keys => Setting.encodeKeys keys
  | salt bytes => .ok bytes.toList
  | test data => .ok (Wire.counted data)

def readBody : UInt8 → Reader SettingsRequest
  | 0 => return reset (← Reader.u16)
  | 1 => return enumerate (← Reader.u16)
  | 2 => return read (← Setting.readKeys)
  | 3 => return write (← Setting.readAll)
  | 4 => return delete (← Setting.readKeys)
  | 5 => return salt (← Reader.octets 16)
  | 15 => return test (← Reader.counted)
  | subtype => Reader.unsupported (.configRequestSubtype subtype)

end SettingsRequest

-- What a device answers about its settings.
inductive SettingsResponse where
  | reset (magic : UInt16)
  | enumerate (iterator : UInt16) (keys : List UInt16)
  | read (settings : List Setting)
  | write (code : UInt8)
  | delete (code : UInt8)
  | salt (bytes : Octets 16)
  | test (data : List UInt8)
  deriving DecidableEq, Repr

namespace SettingsResponse

def subtype : SettingsResponse → UInt8
  | reset _ => 0
  | enumerate _ _ => 1
  | read _ => 2
  | write _ => 3
  | delete _ => 4
  | salt _ => 5
  | test _ => 15

def encodeBody : SettingsResponse → Except FrameError (List UInt8)
  | reset magic => .ok (Wire.u16 magic)
  | enumerate iterator keys => return Wire.u16 iterator ++ (← Setting.encodeKeys keys)
  | read settings => Setting.encodeAll settings
  | write code => .ok (Wire.u8 code)
  | delete code => .ok (Wire.u8 code)
  | salt bytes => .ok bytes.toList
  | test data => .ok (Wire.counted data)

def readBody : UInt8 → Reader SettingsResponse
  | 0 => return reset (← Reader.u16)
  | 1 => return enumerate (← Reader.u16) (← Setting.readKeys)
  | 2 => return read (← Setting.readAll)
  | 3 => return write (← Reader.u8)
  | 4 => return delete (← Reader.u8)
  | 5 => return salt (← Reader.octets 16)
  | 15 => return test (← Reader.counted)
  | subtype => Reader.unsupported (.configResponseSubtype subtype)

end SettingsResponse

end UwbRanging
