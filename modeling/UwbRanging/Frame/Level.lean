import UwbRanging.Frame.Timestamp

namespace UwbRanging

-- The pulse repetition frequency. It selects the constant of the conversion to dBm.
inductive Prf where
  | mhz16
  | mhz64
  deriving DecidableEq, Repr, Inhabited

namespace Prf

def ofMhz : Nat → Option Prf
  | 16 => some mhz16
  | 64 => some mhz64
  | _ => none

def mhz : Prf → Nat
  | mhz16 => 16
  | mhz64 => 64

def dbmOffset : Prf → Float
  | mhz16 => 113.77
  | mhz64 => 121.74

def toDbm (prf : Prf) (level : Float) : Float := 10.0 * Float.log10 level - prf.dbmOffset

end Prf

namespace Diagnostics

-- The received signal level. A block without power fields has none.
def rxLevel (i : Diagnostics) : Option Float :=
  if i.cirPwr = 0 ∨ i.rxpacc = 0 then none
  else
    let rxp := Binary64.ofNat i.rxpacc.toNat
    some (Binary64.ofNat (i.cirPwr.toNat * 0x20000) / (rxp * rxp))

-- The signal level of the first path, from three amplitudes around it.
def fpLevel (i : Diagnostics) : Option Float :=
  if i.fpAmpl1 = 0 ∨ i.fpAmpl2 = 0 ∨ i.fpAmpl3 = 0 ∨ i.rxpacc = 0 then none
  else
    let a1 := Binary64.ofNat i.fpAmpl1.toNat
    let a2 := Binary64.ofNat i.fpAmpl2.toNat
    let a3 := Binary64.ofNat i.fpAmpl3.toNat
    let rxp := Binary64.ofNat i.rxpacc.toNat
    some ((a1 * a1 + a2 * a2 + a3 * a3) / (rxp * rxp))

def rxPowerDbm (i : Diagnostics) (prf : Prf) : Option Float := i.rxLevel.map prf.toDbm

def fpPowerDbm (i : Diagnostics) (prf : Prf) : Option Float := i.fpLevel.map prf.toDbm

-- The carrier integrator as a signed number of 19 bits.
def carrierOffset (i : Diagnostics) : Int := (i.ttcko.toNat : Int).bmod 0x80000

-- The offset of the sender's crystal against the receiver's.
def xtalRatio (i : Diagnostics) : Option Float :=
  if i.ttcki = 0 then none
  else some (Binary64.ofInt i.carrierOffset / Binary64.ofNat i.ttcki.toNat)

-- Degrees Celsius.
def temperature (i : Diagnostics) : Float := 0.01 * Binary64.ofInt i.temp.toInt

-- Volts.
def voltage (i : Diagnostics) : Float := 0.001 * Binary64.ofInt i.volt.toInt

end Diagnostics

end UwbRanging
