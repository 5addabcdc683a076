import UwbRanging.Frame.Handshake

namespace UwbRanging

-- The four receive quality words of a timing entry, in the order in which they are sent.
structure RxInfo where
  first : UInt16
  second : UInt16
  third : UInt16
  fourth : UInt16
  deriving DecidableEq, Repr

namespace RxInfo

def toWire (i : RxInfo) : List UInt8 := Wire.u16 i.first ++ Wire.u16 i.second ++ Wire.u16 i.third ++ Wire.u16 i.fourth

def read : Reader RxInfo := return ⟨← Reader.u16, ← Reader.u16, ← Reader.u16, ← Reader.u16⟩

end RxInfo

-- When, and how well, one peer was heard.
structure TimingEntry where
  addr : Address
  rxTime : Option UInt64
  rxInfo : Option RxInfo
  deriving DecidableEq, Repr

namespace TimingEntry

def toWire (e : TimingEntry) : List UInt8 :=
  e.addr.toWire ++ e.rxTime.elim [] Wire.u40 ++ e.rxInfo.elim [] RxInfo.toWire

def read (withTime withInfo long : Bool) : Reader TimingEntry := do
  let addr ← Header.readAddress long
  let rxTime ← Reader.when withTime Reader.u40
  return ⟨addr, rxTime, ← Reader.when withInfo RxInfo.read⟩

end TimingEntry

-- A timing report. All its entries carry the same optional fields.
structure TimingReport where
  timing : Bool
  txTime : Option UInt64
  entries : List TimingEntry
  deriving DecidableEq, Repr

namespace TimingReport

-- The first entry tells which optional fields the entries carry.
def hasTimes (t : TimingReport) : Bool := t.entries.head?.any fun e => e.rxTime.isSome

def hasInfos (t : TimingReport) : Bool := t.entries.head?.any fun e => e.rxInfo.isSome

def isUniform (t : TimingReport) : Bool :=
  t.entries.all fun e => e.rxTime.isSome == t.hasTimes && e.rxInfo.isSome == t.hasInfos

-- The low three bits announce a transmit time, receive times and receive qualities.
def subtype (t : TimingReport) : UInt8 :=
  (Bits.placeFlag t.timing 3 ||| Bits.placeFlag t.txTime.isSome 2
    ||| Bits.placeFlag t.hasTimes 1 ||| Bits.placeFlag t.hasInfos 0).toUInt8

-- Entries that carry no optional field have no place on the air and are left out.
def encodeEntries (t : TimingReport) : Except FrameError (List UInt8) :=
  if t.hasTimes || t.hasInfos then do
    checkPeers t.entries.length
    return LongMask.encode (t.entries.map fun e => e.addr.isLong) ++ t.entries.flatMap TimingEntry.toWire
  else return []

def encodeBody (t : TimingReport) : Except FrameError (List UInt8) :=
  if t.isUniform then return t.txTime.elim [] Wire.u40 ++ (← t.encodeEntries)
  else .error (.unsupported .mixedTimingEntries)

def readEntries (withTime withInfo : Bool) : Reader (List TimingEntry) :=
  if withTime || withInfo then do
    Reader.each (TimingEntry.read withTime withInfo) (← LongMask.decode)
  else return []

def readBody (subtype : UInt8) : Reader TimingReport := do
  let announced := fun n => Bits.test subtype.toUInt32 n
  let txTime ← Reader.when (announced 2) Reader.u40
  return ⟨announced 3, txTime, ← readEntries (announced 1) (announced 0)⟩

end TimingReport

end UwbRanging
