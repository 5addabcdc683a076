import UwbRanging.DataTree
import UwbRanging.Radio.Form
import UwbRanging.Simulation.Scenario

namespace UwbRanging

open DataTree

variable {V : Type} [DataTree V]

def Point.ofTree? (v : V) : Option Point := do
  match ← items? v with
  | x :: y :: z :: _ => return ⟨← float? x, ← float? y, ← float? z⟩
  | _ => none

namespace SimRadio

def fieldNames : List String := ["eui", "position", "ppm", "offset_s", "antenna_delay_ns", "radio"]

-- Reads a radio. Only its EUI and its position must be there.
def ofTree? (v : V) : Option SimRadio := do
  match ← fields? fieldNames v with
  | [eui, position, ppm, offset, delay, config] =>
    let eui ← required text? eui
    return {
      eui := ← (Eui64.parse eui).toOption
      position := ← required Point.ofTree? position
      ppm := ← orDefault 0.0 float? ppm
      offset := ← orDefault 0.0 float? offset
      antennaDelayNs := ← orDefault Prf.mhz64.antennaDelayNs float? delay
      config := ← orDefault {} RadioConfig.ofTree? config }
  | _ => none

end SimRadio

namespace Noise

def fieldNames : List String := ["jitter_ps", "loss_rate", "rx_dbm_at_1m", "rx_dbm_sigma"]

def ofTree? (v : V) : Option Noise := do
  let start : Noise := {}
  match ← fields? fieldNames v with
  | [jitter, loss, power, sigma] =>
    return {
      jitterPs := ← orDefault start.jitterPs float? jitter
      lossRate := ← orDefault start.lossRate float? loss
      rxDbmAt1m := ← orDefault start.rxDbmAt1m float? power
      rxDbmSigma := ← orDefault start.rxDbmSigma float? sigma }
  | _ => none

end Noise

namespace Scenario

def fieldNames : List String := ["active", "drift_ppm", "loss_rate", "jitter_ps", "far_offset_m", "antenna_error_ns"]

def faults? (v : V) : Option (List Fault) := do
  (← items? v).mapM fun f => do Fault.ofName (← choice? f)

-- Reads a scenario. Missing strengths keep their defaults.
def ofTree? (v : V) : Option Scenario := do
  let start : Scenario := {}
  match ← fields? fieldNames v with
  | [active, drift, loss, jitter, far, antenna] =>
    return {
      active := ← orDefault [] faults? active
      driftPpm := ← orDefault start.driftPpm float? drift
      lossRate := ← orDefault start.lossRate float? loss
      jitterPs := ← orDefault start.jitterPs float? jitter
      farOffset := ← orDefault start.farOffset float? far
      antennaErrorNs := ← orDefault start.antennaErrorNs float? antenna }
  | _ => none

end Scenario

end UwbRanging
