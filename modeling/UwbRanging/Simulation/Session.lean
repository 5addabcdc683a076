import UwbRanging.Config.Environment
import UwbRanging.Simulation.Batch
import UwbRanging.Simulation.Options
import UwbRanging.Simulation.Setup

namespace UwbRanging

-- Why a run did not come about, or not to its end.
inductive RunError where
  | setup
  | ranging (error : ConfigError)
  | scenario (name : String)
  | tooFewDevices (configured needed : Nat)
  | portRange
  | connecting (port : Nat) (error : TransportError)
  -- a sum has stopped the batch, after which these marks were printed
  | stopped (marks : List Char)

namespace RunError

def listText (items : List String) : String := "[" ++ ", ".intercalate (items.map Text.quoted) ++ "]"

-- What happened, and what brought it about.
def message : RunError → String
  | setup => "invalid config.toml"
  | ranging error => "invalid [ranging] table\n\nCaused by:\n    " ++ error.message
  | scenario name =>
    "unknown scenario " ++ Text.quoted name ++ ", expected one of " ++ listText Scenario.presets
  | tooFewDevices configured needed => s!"{configured} devices configured, this run needs {needed}"
  | portRange => "binding daemon sockets\n\nCaused by:\n    device port out of range"
  | connecting port error => s!"connecting 127.0.0.1:{port}\n\nCaused by:\n    " ++ error.message
  | stopped _ => "batch thread"

-- What was printed before.
def printed : RunError → String
  | stopped marks => String.ofList marks
  | _ => ""

end RunError

-- What a command leaves behind.
structure Outcome where
  code : UInt32
  stdout : String := ""
  stderr : String := ""
  deriving DecidableEq, Repr

namespace Session

-- The distance that a run should measure. With a listener it is the detour through the second radio,
-- less the known part of it.
def groundTruth (radios : List SimRadio) (threeDevice : Bool) (baseline : Option Float) : Float :=
  match radios, threeDevice with
  | dut :: reference :: listener :: _, true =>
    dut.distance reference + reference.distance listener - dut.distance listener - baseline.getD 0.0
  | dut :: reference :: _, _ => dut.distance reference
  | _, _ => 0.0 / 0.0

-- The configuration of a run, from a file or built in, with the environment's values and under the
-- scenario asked for.
def setup (o : Options) (file : Option (List UInt8)) (env : Environment) : Except RunError Setup := do
  let setup ← match file.bind Text.decodeUtf8 with
    | none => pure Setup.builtIn
    | some text => (Setup.parse? text).elim (throw .setup) pure
  let ranging ← (setup.ranging.withEnvironment env).mapError .ranging
  match Scenario.preset? o.scenario with
  | none => throw (.scenario o.scenario)
  | some scenario => return { setup with ranging := ranging, scene := scenario.apply setup.scene }

-- Radios take the ports from the first one on. Port zero stands for ports that are free.
def checkPorts (first : UInt16) (count : Nat) : Except RunError Unit :=
  if first ≠ 0 ∧ UInt16.size < first.toNat + count then .error .portRange else .ok ()

-- Who takes part, from the radios in the order of their places.
def trio? (euis : List Eui64) (threeDevice : Bool) : Option Trio :=
  match euis with
  | dut :: reference :: rest => some ⟨dut, reference, if threeDevice then rest.head? else none⟩
  | _ => none

-- The text of a finished batch.
def report (b : Batch) (truth : Float) : String :=
  let bias := b.tally.distance.mean - truth
  String.ofList b.marks ++ "\n" ++ b.tally.text ++ "\n"
    ++ "truth:        " ++ Decimal.fixed 3 false truth ++ " m\n"
    ++ if b.tally.successes = 0 then "" else "bias:         " ++ Decimal.fixed 3 true bias ++ " m\n"

-- What a batch comes to when it is over.
def conclude (b : Batch) (truth : Float) : Except RunError String :=
  if b.stopped then .error (.stopped b.marks) else .ok (report b truth)

-- Runs the batch that the options ask for.
def run (o : Options) (file : Option (List UInt8)) (env : Environment) (gen : StdGen) : Except RunError String := do
  let setup ← setup o file env
  let radios := setup.scene.radios
  let needed := if o.threeDevice then 3 else 2
  if radios.length < needed then throw (.tooFewDevices radios.length needed)
  checkPorts o.port radios.length
  let endpoint : Endpoint Nat := { callTimeout := RangingConfig.nanosOfMillis setup.callTimeoutMs }
  let air : LiveAir := { air := Air.ofScene setup.scene setup.ranging.speedOfLight, gen := gen }
  let (connected, (endpoint, air)) := (Batch.connectAll (List.range radios.length)).run (endpoint, air)
  let euis ← connected.mapError (.connecting o.port.toNat)
  match trio? euis o.threeDevice with
  | none => throw (.tooFewDevices euis.length needed)
  | some trio =>
    let b : Batch :=
      { config := setup.ranging, endpoint := endpoint, air := air, timeline := .startAt air.now }
    conclude (b.run trio o.count) (groundTruth radios o.threeDevice setup.ranging.baseline)

-- Runs the command with these arguments. Files are looked up by name.
def command (args : List String) (file : String → Option (List UInt8)) (env : Environment) (gen : StdGen) : Outcome :=
  match Options.read args with
  | .help => ⟨0, Options.help, ""⟩
  | .misuse => ⟨2, "", ""⟩
  | .run o =>
    match run o (file o.config) env gen with
    | .ok text => ⟨0, text, ""⟩
    | .error e => ⟨1, e.printed, "Error: " ++ e.message⟩

end Session

end UwbRanging
