import UwbRanging.Exchange.Table
import UwbRanging.Frame.Basic
import UwbRanging.Message.Form
import UwbRanging.Text.Utf8
import UwbRanging.Transport.Pending

namespace UwbRanging

-- The record that a report carries, and the blink that it belongs to: the frame must be a beacon.
-- Its source is the reported one, or else the sender that the frame names.
def TimestampReport.delivery? (r : TimestampReport) : Option Delivery := do
  let bytes ← r.frameBytes.toOption
  let frame ← (Frame.decode bytes []).toOption
  let id ← frame.blinkId
  return ⟨id, { device := r.anchor, source := r.src.or frame.header.srcEui, timestamp := r.timestamp }⟩

-- The record that a message carries, if it is a report.
def Message.delivery? : Message → Option Delivery
  | tx r => r.delivery?
  | rx r => r.delivery?
  | _ => none

-- The host's end of the link to the radio daemons, which are reached at addresses of type `A`.
structure Endpoint (A : Type) where
  -- how long a call waits for its reply, in nanoseconds
  callTimeout : Nat
  devices : List (Eui64 × A) := []
  pending : PendingCalls := {}
  nextSeqn : UInt32 := 1
  table : ExchangeTable := {}

-- A carrier of datagrams. It takes a text to an address and gives the datagrams that arrive in
-- return, or tells why it could not be sent.
structure Link (σ A : Type) where
  send : A → String → σ → Except TransportError (List (List UInt8)) × σ

namespace Endpoint

variable {A σ : Type}

-- What a message does to the endpoint: a report is filed, a reply goes to its call.
def accept (e : Endpoint A) : Message → Endpoint A
  | .rpc reply => { e with pending := (e.pending.complete reply).2 }
  | m => m.delivery?.elim e fun d => { e with table := e.table.deliver d }

-- What a datagram does to the endpoint. One that cannot be read does nothing.
def dispatch (e : Endpoint A) (datagram : List UInt8) : Endpoint A :=
  match Message.decode datagram with
  | .ok m => e.accept m
  | .error _ => e

def dispatchAll (e : Endpoint A) (datagrams : List (List UInt8)) : Endpoint A := datagrams.foldl dispatch e

-- Registers a device. An older address of the device is forgotten.
def addDevice (e : Endpoint A) (device : Eui64) (address : A) : Endpoint A :=
  { e with devices := (device, address) :: e.devices.filter fun d => d.1 != device }

def addressOf (e : Endpoint A) (device : Eui64) : Except TransportError A :=
  match e.devices.lookup device with
  | some address => .ok address
  | none => .error (.unknownDevice device)

-- The next call, which gets a number of its own.
def number (e : Endpoint A) (func : String) (args : RpcArgs) : RpcCall × Endpoint A :=
  (⟨func, e.nextSeqn, args⟩, { e with nextSeqn := e.nextSeqn + 1 })

-- From now on a call waits under its number.
def register (e : Endpoint A) (call : RpcCall) : Endpoint A := { e with pending := e.pending.start call.seqn }

def openCall (e : Endpoint A) (func : String) (args : RpcArgs) : RpcCall × Endpoint A :=
  let (call, e) := e.number func args
  (call, e.register call)

-- The result of a call by the first reply that came for it.
def conclude (e : Endpoint A) (func : String) : Option RpcCall → Except TransportError RpcArgs
  | some reply => if reply.func = func then .ok reply.args else .error (.badReply (.function reply.func func))
  | none => .error (.callTimeout func e.callTimeout)

-- Ends a call and gives its result.
def closeCall (e : Endpoint A) (call : RpcCall) : Except TransportError RpcArgs × Endpoint A :=
  let (reply, pending) := e.pending.finish call.seqn
  (e.conclude call.func reply, { e with pending := pending })

end Endpoint

-- Actions on an endpoint and the link that it is on.
abbrev Exchanging (σ A : Type) := ExceptT TransportError (StateM (Endpoint A × σ))

namespace Link

variable {A σ : Type}

def change (f : Endpoint A → Endpoint A) : Exchanging σ A Unit := fun s => (.ok (), (f s.1, s.2))

def fetch {α : Type} (f : Endpoint A → α × Endpoint A) : Exchanging σ A α := fun s =>
  let (a, e) := f s.1
  (.ok a, (e, s.2))

def lift {α : Type} (result : Except TransportError α) : Exchanging σ A α := fun s => (result, s)

-- Sends a message and takes in what arrives.
def post (link : Link σ A) (address : A) (m : Message) : Exchanging σ A Unit := fun s =>
  match link.send address m.encode s.2 with
  | (.ok datagrams, state) => (.ok (), (s.1.dispatchAll datagrams, state))
  | (.error e, state) => (.error e, (s.1, state))

-- Calls the daemon at an address. The call is over afterwards, also if it could not be sent.
def callAt (link : Link σ A) (address : A) (func : String) (args : RpcArgs) : Exchanging σ A RpcArgs := do
  let call ← fetch fun e => e.openCall func args
  try
    link.post address (.rpc call)
  catch error =>
    let _ ← fetch fun e => e.closeCall call
    throw error
  lift (← fetch fun e => e.closeCall call)

def call (link : Link σ A) (device : Eui64) (func : String) (args : RpcArgs) : Exchanging σ A RpcArgs := do
  link.callAt (← lift (← fetch fun e => (e.addressOf device, e))) func args

-- Asks the daemon at an address for its EUI and registers it.
def connect (link : Link σ A) (address : A) : Exchanging σ A Eui64 := do
  let reply ← link.callAt address RpcCall.getEui {}
  match reply.value with
  | some (.text s) =>
    match Eui64.parse s with
    | .ok eui => do
      change fun e => e.addDevice eui address
      return eui
    | .error e => throw (.badReply (.eui e))
  | value => throw (.badReply (.euiValue value))

def valueOf (attr : DeviceAttr) (reply : RpcArgs) : Except TransportError AttrValue :=
  match reply.value with
  | some value => .ok value
  | none => .error (.badReply (.noValue attr))

def getAttribute (link : Link σ A) (device : Eui64) (attr : DeviceAttr) : Exchanging σ A AttrValue := do
  lift (valueOf attr (← link.call device RpcCall.getAttr { attr := some attr }))

-- Changes an attribute. A value that does not pass the check is refused before anything is sent.
-- The answer is the value that the device reports after the change.
def setAttribute (link : Link σ A) (device : Eui64) (attr : DeviceAttr) (value : AttrValue) :
    Exchanging σ A AttrValue := do
  let value ← lift ((attr.validate value).mapError .invalidAttribute)
  lift (valueOf attr (← link.call device RpcCall.setAttr { attr := some attr, value := some value }))

-- Asks a device for a blink.
def issueBlink (link : Link σ A) (device : Eui64) (id : BlinkId) : Exchanging σ A Unit := do
  let address ← lift (← fetch fun e => (e.addressOf device, e))
  link.post address (.beacon (BeaconRequest.forBlink id))

end Link

end UwbRanging
