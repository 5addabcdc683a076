import UwbRanging.Json.Form
import UwbRanging.Radio.Config

namespace UwbRanging

instance : ToJson AttrValue := ⟨fun
  | .int n => toJson n
  | .text s => toJson s⟩

-- A number that does not fit is no value.
instance : OfJson AttrValue := ⟨fun
  | .text s => some (.text s)
  | j => (ofJson? j).map .int⟩

instance : ToJson DeviceAttr := ⟨fun a => toJson a.name⟩

namespace RadioConfig

def fieldNames : List String := ["channel", "prf", "pcode", "txpsr", "rate", "smart_power", "tx_power", "xtalt", "antd",
  "profile", "snr_threshold", "fpr_threshold", "noise_threshold"]

instance : ToJson RadioConfig := ⟨fun r => Json.object (fieldNames.zip [toJson r.channel, toJson r.prf, toJson r.pcode,
  toJson r.txpsr, toJson r.rate, toJson r.smartPower, toJson r.txPower, toJson r.xtalt, toJson r.antd,
  toJson r.profile, toJson r.snrThreshold, toJson r.fprThreshold, toJson r.noiseThreshold])⟩

open DataTree in
-- Reads a configuration. Missing settings are those of a radio as it is delivered.
def ofTree? {V : Type} [DataTree V] (v : V) : Option RadioConfig := do
  let start : RadioConfig := {}
  match ← fields? fieldNames v with
  | [channel, prf, pcode, txpsr, rate, smartPower, txPower, xtalt, antd, profile, snr, fpr, noise] =>
    return {
      channel := UInt8.ofNat (← orDefault start.channel.toNat (nat? UInt8.size) channel)
      prf := UInt32.ofNat (← orDefault start.prf.toNat (nat? UInt32.size) prf)
      pcode := UInt8.ofNat (← orDefault start.pcode.toNat (nat? UInt8.size) pcode)
      txpsr := UInt32.ofNat (← orDefault start.txpsr.toNat (nat? UInt32.size) txpsr)
      rate := UInt32.ofNat (← orDefault start.rate.toNat (nat? UInt32.size) rate)
      smartPower := ← orDefault start.smartPower bool? smartPower
      txPower := UInt32.ofNat (← orDefault start.txPower.toNat (nat? UInt32.size) txPower)
      xtalt := UInt8.ofNat (← orDefault start.xtalt.toNat (nat? UInt8.size) xtalt)
      antd := UInt16.ofNat (← orDefault start.antd.toNat (nat? UInt16.size) antd)
      profile := ← orDefault start.profile text? profile
      snrThreshold := ← orDefault start.snrThreshold int64? snr
      fprThreshold := ← orDefault start.fprThreshold int64? fpr
      noiseThreshold := ← orDefault start.noiseThreshold int64? noise }
  | _ => none

instance : OfJson RadioConfig := ⟨ofTree?⟩

end RadioConfig

end UwbRanging
