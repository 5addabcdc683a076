import UwbRanging.Frame.Timestamp

namespace UwbRanging

-- The kernel's layout of a timestamp: 112 bytes, all numbers least significant byte first, with
-- four unused bytes after the high-resolution time and two after the amplitudes.
namespace TimestampLayout

def size : Nat := 112

-- The number in `width` bytes from `offset` on. Bytes that are missing count as zero.
def field (data : List UInt8) (offset width : Nat) : Nat :=
  LittleEndian.decode ((data.drop offset).take width)

def u16 (data : List UInt8) (offset : Nat) : UInt16 := UInt16.ofNat (field data offset 2)

def u32 (data : List UInt8) (offset : Nat) : UInt32 := UInt32.ofNat (field data offset 4)

def u64 (data : List UInt8) (offset : Nat) : UInt64 := UInt64.ofNat (field data offset 8)

def i16 (data : List UInt8) (offset : Nat) : Int16 := (u16 data offset).toInt16

def timespec (data : List UInt8) (offset : Nat) : Timespec :=
  ⟨(u64 data offset).toInt64, (u64 data (offset + 8)).toInt64⟩

def timespecBytes (t : Timespec) : List UInt8 :=
  LittleEndian.encode 8 t.sec.toUInt64.toNat ++ LittleEndian.encode 8 t.nsec.toUInt64.toNat

def hires (data : List UInt8) (offset : Nat) : Hires := ⟨u64 data offset, u32 data (offset + 8)⟩

def hiresBytes (h : Hires) : List UInt8 :=
  LittleEndian.encode 8 h.nsec.toNat ++ LittleEndian.encode 4 h.frac.toNat ++ LittleEndian.encode 4 0

def diagnostics (data : List UInt8) (offset : Nat) : Diagnostics where
  rawts := u64 data offset
  lqi := u16 data (offset + 8)
  snr := u16 data (offset + 10)
  fpr := u16 data (offset + 12)
  noise := u16 data (offset + 14)
  rxpacc := u16 data (offset + 16)
  fpIndex := u16 data (offset + 18)
  fpAmpl1 := u16 data (offset + 20)
  fpAmpl2 := u16 data (offset + 22)
  fpAmpl3 := u16 data (offset + 24)
  cirPwr := u32 data (offset + 28)
  fpPwr := u32 data (offset + 32)
  ttcko := u32 data (offset + 36)
  ttcki := u32 data (offset + 40)
  temp := i16 data (offset + 44)
  volt := i16 data (offset + 46)

def diagnosticsBytes (i : Diagnostics) : List UInt8 :=
  LittleEndian.encode 8 i.rawts.toNat
    ++ [i.lqi, i.snr, i.fpr, i.noise, i.rxpacc, i.fpIndex, i.fpAmpl1, i.fpAmpl2, i.fpAmpl3, 0].flatMap
      (fun w => LittleEndian.encode 2 w.toNat)
    ++ [i.cirPwr, i.fpPwr, i.ttcko, i.ttcki].flatMap (fun w => LittleEndian.encode 4 w.toNat)
    ++ [i.temp, i.volt].flatMap (fun w => LittleEndian.encode 2 w.toUInt16.toNat)

end TimestampLayout

namespace HardwareTimestamp

open TimestampLayout in
-- Reads a timestamp from the data of a control message. Data that is too short counts as filled up
-- with zeros, and what goes beyond the layout is not looked at.
def ofBytes (data : List UInt8) : HardwareTimestamp where
  sw := timespec data 0
  legacy := timespec data 16
  hw := timespec data 32
  hires := TimestampLayout.hires data 48
  info := diagnostics data 64

open TimestampLayout in
def toBytes (ts : HardwareTimestamp) : List UInt8 :=
  timespecBytes ts.sw ++ timespecBytes ts.legacy ++ timespecBytes ts.hw
    ++ hiresBytes ts.hires ++ diagnosticsBytes ts.info

end HardwareTimestamp

-- A piece of ancillary data that came with a frame.
structure ControlMessage where
  level : Int
  kind : Int
  data : List UInt8
  deriving DecidableEq, Repr

namespace ControlMessage

-- The level and the kind of the message that carries a timestamp.
def socketLevel : Int := 1

def timestampKind : Int := 37

def timestamping (ts : HardwareTimestamp) : ControlMessage := ⟨socketLevel, timestampKind, ts.toBytes⟩

def isTimestamping (m : ControlMessage) : Bool := m.level == socketLevel && m.kind == timestampKind

end ControlMessage

-- The timestamp among a frame's ancillary data. The last one counts.
def HardwareTimestamp.ofAncillary (messages : List ControlMessage) : Option HardwareTimestamp :=
  ((messages.filter ControlMessage.isTimestamping).getLast?).map fun m => ofBytes m.data

end UwbRanging
