import UwbRanging.Config.File
import UwbRanging.Simulation.Form

namespace UwbRanging

-- What a batch is configured with: the ranging parameters, the scene, and how many milliseconds a
-- call waits for its reply.
structure Setup where
  ranging : RangingConfig
  scene : Scene
  callTimeoutMs : UInt64

namespace Setup

open DataTree

-- The part of a document that describes the simulation. The list of radios must be there.
def simulation? (v : Toml) : Option (Scene × UInt64) := do
  match ← fields? ["call_timeout_ms", "noise", "devices"] v with
  | [timeout, noise, devices] =>
    let timeout ← orDefault 500 (nat? UInt64.size) timeout
    let noise ← orDefault {} Noise.ofTree? noise
    let devices ← required items? devices
    return (⟨← devices.mapM SimRadio.ofTree?, noise⟩, UInt64.ofNat timeout)
  | _ => none

def ofDocument? (document : Toml) : Option Setup := do
  match ← fields? ["ranging", "sim"] document with
  | [ranging, sim] =>
    let ranging ← orDefault {} RangingConfig.ofTree? ranging
    let (scene, timeout) ← required simulation? sim
    return ⟨ranging, scene, timeout⟩
  | _ => none

def parse? (text : List Char) : Option Setup := (Toml.parse text).bind ofDocument?

-- The configuration that is used if there is no file.
def builtIn : Setup where
  ranging := {}
  scene := {
    radios := [
      { eui := ⟨0x70b3d5b1e0000024⟩, position := ⟨0.0, 0.0, 1.5⟩, ppm := 4.0, offset := 0.75 },
      { eui := ⟨0x70b3d5b1e0000025⟩, position := ⟨12.0, 5.0, 1.5⟩, ppm := -9.5, offset := 3.2 },
      { eui := ⟨0x70b3d5b1e0000026⟩, position := ⟨12.0, -4.0, 2.0⟩, ppm := 17.0, offset := 6.1 }]
    noise := {} }
  callTimeoutMs := 500

end Setup

end UwbRanging
