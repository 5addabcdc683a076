import UwbRanging.Simulation.Radio

namespace UwbRanging

-- A disturbance of a batch.
inductive Fault where
  -- opposite clock errors on alternating radios
  | clockDrift
  -- reports get lost
  | lossyLink
  | jitter
  -- the last radio is out of reach
  | farPlacement
  -- the first radio's antenna delay is off its register
  | antennaMismatch
  deriving DecidableEq, Repr

namespace Fault

def all : List Fault := [clockDrift, lossyLink, jitter, farPlacement, antennaMismatch]

def name : Fault → String
  | clockDrift => "clock_drift"
  | lossyLink => "lossy_link"
  | jitter => "jitter"
  | farPlacement => "far_placement"
  | antennaMismatch => "antenna_mismatch"

def ofName (name : String) : Option Fault := all.find? fun f => f.name == name

end Fault

-- What is simulated: the radios and the noise between them.
structure Scene where
  radios : List SimRadio
  noise : Noise

-- The faults that disturb a scene, and how strong each of them is.
structure Scenario where
  active : List Fault := []
  driftPpm : Float := 20.0
  lossRate : Float := 0.05
  jitterPs : Float := 100.0
  farOffset : Float := 500.0
  antennaErrorNs : Float := 1.0

namespace Scenario

def has (s : Scenario) (f : Fault) : Bool := s.active.contains f

-- A list with its last element changed.
def changeLast {α : Type} (f : α → α) : List α → List α
  | [] => []
  | [a] => [f a]
  | a :: rest => a :: changeLast f rest

def changeFirst {α : Type} (f : α → α) : List α → List α
  | [] => []
  | a :: rest => f a :: rest

def drift (s : Scenario) (radios : List SimRadio) : List SimRadio :=
  radios.mapIdx fun i r => { r with ppm := r.ppm + if i % 2 = 0 then s.driftPpm else -s.driftPpm }

def moveAway (s : Scenario) (r : SimRadio) : SimRadio :=
  { r with position := { r.position with x := r.position.x + s.farOffset } }

def detune (s : Scenario) (r : SimRadio) : SimRadio := { r with antennaDelayNs := r.antennaDelayNs + s.antennaErrorNs }

-- What one fault does to a scene.
def inflict (s : Scenario) (scene : Scene) : Fault → Scene
  | .clockDrift => { scene with radios := s.drift scene.radios }
  | .lossyLink => { scene with noise := { scene.noise with lossRate := s.lossRate } }
  | .jitter => { scene with noise := { scene.noise with jitterPs := s.jitterPs } }
  | .farPlacement => { scene with radios := changeLast s.moveAway scene.radios }
  | .antennaMismatch => { scene with radios := changeFirst s.detune scene.radios }

-- The scene under all active faults, each once.
def apply (s : Scenario) (scene : Scene) : Scene :=
  (Fault.all.filter s.has).foldl s.inflict scene

def presets : List String := ["nominal", "drift", "lossy", "far", "antenna", "rough"]

def presetFaults? : String → Option (List Fault)
  | "nominal" => some []
  | "drift" => some [.clockDrift]
  | "lossy" => some [.lossyLink, .jitter]
  | "far" => some [.farPlacement]
  | "antenna" => some [.antennaMismatch]
  | "rough" => some [.clockDrift, .lossyLink, .jitter]
  | _ => none

def preset? (name : String) : Option Scenario := (presetFaults? name).map fun faults => { active := faults }

end Scenario

end UwbRanging
