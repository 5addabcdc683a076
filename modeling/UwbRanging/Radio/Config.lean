import UwbRanging.Radio.Attribute
import UwbRanging.Frame.Level

namespace UwbRanging

-- The antenna delay, in nanoseconds, of a radio as it is delivered.
def Prf.antennaDelayNs : Prf → Float
  | mhz64 => 514.4620
  | mhz16 => 513.9067

namespace RadioConfig

-- The antenna delay register counts half ticks of the radio clock. What does not fit is pressed
-- into the register's range.
def antdOfNanos (ns : Float) : UInt16 := UInt16.ofNat (Binary64.toNatBelow (ns * 63.8976 / 2.0) UInt16.size)

def defaultAntd (prf : Prf) : UInt16 := antdOfNanos prf.antennaDelayNs

end RadioConfig

-- The settings of one radio.
structure RadioConfig where
  channel : UInt8 := 7
  prf : UInt32 := 64
  pcode : UInt8 := 20
  txpsr : UInt32 := 256
  rate : UInt32 := 6800
  smartPower : Bool := false
  txPower : UInt32 := 0xd1d1d1d1
  xtalt : UInt8 := 15
  antd : UInt16 := RadioConfig.defaultAntd .mhz64
  profile : String := "default"
  snrThreshold : Int64 := 0
  fprThreshold : Int64 := 0
  noiseThreshold : Int64 := 0
  deriving DecidableEq, Repr

namespace RadioConfig

instance : Inhabited RadioConfig := ⟨{}⟩

-- A frequency other than the two known ones counts as the default.
def effectivePrf (r : RadioConfig) : Prf := (Prf.ofMhz r.prf.toNat).getD .mhz64

def get (r : RadioConfig) : DeviceAttr → AttrValue
  | .channel => .int (Int64.ofNat r.channel.toNat)
  | .prf => .int (Int64.ofNat r.prf.toNat)
  | .pcode => .int (Int64.ofNat r.pcode.toNat)
  | .txpsr => .int (Int64.ofNat r.txpsr.toNat)
  | .rate => .int (Int64.ofNat r.rate.toNat)
  | .smartPower => .int (if r.smartPower then 1 else 0)
  | .txPower => .text (DeviceAttr.registerText r.txPower.toNat)
  | .xtalt => .int (Int64.ofNat r.xtalt.toNat)
  | .antd => .text ("0x" ++ Hex.padded 4 r.antd.toNat)
  | .profile => .text r.profile
  | .snrThreshold => .int r.snrThreshold
  | .fprThreshold => .int r.fprThreshold
  | .noiseThreshold => .int r.noiseThreshold

-- A number below `size`.
def narrow (size : Nat) (n : Int64) : Option Nat :=
  if 0 ≤ n.toInt ∧ n.toInt < size then some n.toInt.toNat else none

-- The configuration with one attribute changed, if its register can hold the value.
def store (r : RadioConfig) (attr : DeviceAttr) (value : AttrValue) : Option RadioConfig :=
  let register := fun (size : Nat) => value.asInt.bind (narrow size)
  match attr with
  | .channel => (register UInt8.size).map fun n => { r with channel := UInt8.ofNat n }
  | .prf => (register UInt32.size).map fun n => { r with prf := UInt32.ofNat n }
  | .pcode => (register UInt8.size).map fun n => { r with pcode := UInt8.ofNat n }
  | .txpsr => (register UInt32.size).map fun n => { r with txpsr := UInt32.ofNat n }
  | .rate => (register UInt32.size).map fun n => { r with rate := UInt32.ofNat n }
  | .smartPower => value.asInt.map fun (n : Int64) => { r with smartPower := n != 0 }
  | .txPower => (register UInt32.size).map fun n => { r with txPower := UInt32.ofNat n }
  | .xtalt => (register UInt8.size).map fun n => { r with xtalt := UInt8.ofNat n }
  | .antd => (register UInt16.size).map fun n => { r with antd := UInt16.ofNat n }
  | .profile => some { r with profile := value.toText }
  | .snrThreshold => value.asInt.map fun (n : Int64) => { r with snrThreshold := n }
  | .fprThreshold => value.asInt.map fun (n : Int64) => { r with fprThreshold := n }
  | .noiseThreshold => value.asInt.map fun (n : Int64) => { r with noiseThreshold := n }

-- Checks a value and puts it into effect. The answer is the value that is then in effect. A refused
-- value changes nothing.
def set (r : RadioConfig) (attr : DeviceAttr) (value : AttrValue) : Except InvalidValue (AttrValue × RadioConfig) := do
  let value ← attr.validate value
  match r.store attr value with
  | some r => return (r.get attr, r)
  | none => throw ⟨attr, value.toText⟩

end RadioConfig

end UwbRanging
