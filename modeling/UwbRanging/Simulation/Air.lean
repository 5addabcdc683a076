import UwbRanging.Frame.Basic
import UwbRanging.Message.Form
import UwbRanging.Simulation.Scenario
import UwbRanging.Text.Utf8

namespace UwbRanging

-- A simulated radio daemon: the radio, and the numbers of its frames.
structure SimDaemon where
  radio : SimRadio
  counter : SequenceCounter := ⟨0⟩

namespace SimDaemon

-- Whether the call sets an attribute that it names, and to what.
def change? (call : RpcCall) : Option (DeviceAttr × AttrValue) :=
  if call.func = RpcCall.setAttr then
    match call.args.attr, call.args.value with
    | some attr, some value => some (attr, value)
    | _, _ => none
  else none

-- Sets an attribute and gives the value in effect. A value that it cannot take changes nothing.
def setAttribute (d : SimDaemon) (attr : DeviceAttr) (value : AttrValue) : Option AttrValue × SimDaemon :=
  match d.radio.config.set attr value with
  | .ok (value, config) => (some value, { d with radio := { d.radio with config := config } })
  | .error _ => (none, d)

-- The value that answers a call, and the daemon after it.
def respond (d : SimDaemon) (call : RpcCall) : Option AttrValue × SimDaemon :=
  match change? call with
  | some (attr, value) => d.setAttribute attr value
  | none =>
    if call.func = RpcCall.getEui then (some (.text d.radio.eui.text), d)
    else if call.func = RpcCall.getAttr then (call.args.attr.map d.radio.config.get, d)
    else (none, d)

-- The reply to a call. It names the call's function, number and attribute again, and has no value if
-- the call failed.
def answer (d : SimDaemon) (call : RpcCall) : RpcCall × SimDaemon :=
  let (value, d) := d.respond call
  ({ call with args := { attr := call.args.attr, value := value } }, d)

end SimDaemon

-- The simulated daemons around one air.
structure Air where
  daemons : List SimDaemon
  noise : Noise
  speedOfLight : Float

namespace Air

def ofScene (scene : Scene) (speedOfLight : Float) : Air :=
  ⟨scene.radios.map fun r => ⟨r, ⟨0⟩⟩, scene.noise, speedOfLight⟩

-- What one radio reports of a frame that another one sends at time `t`: the sender its transmission,
-- and another one on the same channel its reception, unless the report gets lost.
def report? (air : Air) (sender radio : SimRadio) (frame : List UInt8) (t : Float) (draws : Draws) : Option Message :=
  if radio.eui = sender.eui then
    some (.tx (.ofTimestamp radio.eui none (radio.timestamp t none air.noise draws) frame))
  else if radio.config.channel != sender.config.channel || air.noise.loses draws then none
  else
    let distance := sender.distance radio
    let arrival := t + distance / air.speedOfLight
    let ts := radio.timestamp arrival (some ⟨distance, sender.ppm⟩) air.noise draws
    some (.rx (.ofTimestamp radio.eui (some sender.eui) ts frame))

-- The reports of all radios on a frame, in the order of the radios, each with its radio's place.
def propagate (air : Air) (sender : SimRadio) (frame : List UInt8) (t : Float) (draws : List Draws) :
    List (Nat × Message) :=
  air.daemons.zipIdx.filterMap fun (d, i) =>
    (air.report? sender d.radio frame t (draws.getD i {})).map fun m => (i, m)

-- The random values for the radio of one place.
def drawsAt (draws : List Draws) (i : Nat) : Draws := draws.getD i {}

def setDaemon (air : Air) (index : Nat) (d : SimDaemon) : Air := { air with daemons := air.daemons.set index d }

-- Sends the beacon that a request asks for. A reference that spells no id is passed over.
def transmit (air : Air) (index : Nat) (d : SimDaemon) (request : BeaconRequest) (t : Float) (draws : List Draws) :
    List (Nat × Message) × Air :=
  match request.blinkId with
  | .error _ => ([], air)
  | .ok id =>
    let sent := (Frame.beacon d.radio.eui (Beacon.forBlink id request.subtype)).encode d.counter
    let air := air.setDaemon index { d with counter := sent.counter }
    match sent.outcome with
    | .ok bytes => (air.propagate d.radio bytes t draws, air)
    | .error _ => ([], air)

-- What a message to one daemon brings about: the messages sent back, with the places of the daemons
-- that send them.
def handle (air : Air) (index : Nat) (m : Message) (t : Float) (draws : List Draws) : List (Nat × Message) × Air :=
  match air.daemons[index]? with
  | none => ([], air)
  | some d =>
    match m with
    | .beacon request => air.transmit index d request t draws
    | .rpc call =>
      let (reply, d) := d.answer call
      ([(index, .rpc reply)], air.setDaemon index d)
    | .tx _ => ([], air)
    | .rx _ => ([], air)

-- The same for a datagram. One that cannot be read is passed over.
def receive (air : Air) (index : Nat) (datagram : List UInt8) (t : Float) (draws : List Draws) :
    List (Nat × Message) × Air :=
  match Message.decode datagram with
  | .ok m => air.handle index m t draws
  | .error _ => ([], air)

end Air

end UwbRanging
