import UwbRanging.Frame.TimestampForm
import UwbRanging.Json.Parser
import UwbRanging.Json.Printer
import UwbRanging.Message.Basic
import UwbRanging.Radio.Form

namespace UwbRanging

-- A member that is left out if there is nothing to write.
def Json.memberIf {α : Type} [ToJson α] (name : String) (a : Option α) : List (String × Json) :=
  (a.map fun a => (name, toJson a)).toList

-- A field that must be there.
def Json.present? {α : Type} [OfJson α] (field : Option Json) : Option α := field.bind ofJson?

-- The name of an attribute, alone or as the only name of an object whose value is null.
instance : OfJson DeviceAttr := ⟨fun j => do
  match ← j.variant? with
  | (name, .null) => DeviceAttr.ofName name
  | _ => none⟩

instance : ToJson RpcArgs := ⟨fun a => Json.object (Json.memberIf "Attr" a.attr ++ Json.memberIf "Value" a.value)⟩

instance : OfJson RpcArgs := ⟨fun j => do
  match ← j.fields? ["Attr", "Value"] with
  | [attr, value] => return ⟨← Json.optional? ofJson? attr, ← Json.optional? ofJson? value⟩
  | _ => none⟩

namespace BeaconRequest

def members (r : BeaconRequest) : List (String × Json) := [("Beacon", toJson r.beacon), ("SubType", toJson r.subtype)]

instance : OfJson BeaconRequest := ⟨fun j => do
  match ← j.fields? ["Beacon", "SubType"] with
  | [beacon, subtype] => return ⟨← Json.present? beacon, ← Json.present? subtype⟩
  | _ => none⟩

end BeaconRequest

namespace RpcCall

def members (c : RpcCall) : List (String × Json) :=
  [("Func", toJson c.func), ("Seqn", toJson c.seqn), ("Args", toJson c.args)]

-- The arguments may be missing, but not null.
instance : OfJson RpcCall := ⟨fun j => do
  match ← j.fields? ["Func", "Seqn", "Args"] with
  | [func, seqn, args] =>
    return ⟨← Json.present? func, ← Json.present? seqn, ← args.elim (some {}) ofJson?⟩
  | _ => none⟩

end RpcCall

namespace TimestampReport

-- The three clocks of a report.
def times (r : TimestampReport) : Json :=
  Json.object [("swts", toJson r.swts), ("hwts", toJson r.hwts), ("hires", toJson r.hires.toNat)]

def times? (j : Json) : Option (UInt64 × UInt64 × BitVec 128) := do
  match ← j.fields? ["swts", "hwts", "hires"] with
  | [swts, hwts, hires] =>
    return (← Json.present? swts, ← Json.present? hwts, BitVec.ofNat 128 (← hires.bind (Json.nat? (UInt64.size * UInt64.size))))
  | _ => none

def members (r : TimestampReport) : List (String × Json) := [("Anchor", toJson r.anchor), ("Src", toJson r.src),
  ("Times", r.times), ("TSInfo", toJson r.info), ("Frame", toJson r.frame)]

instance : OfJson TimestampReport := ⟨fun j => do
  match ← j.fields? ["Anchor", "Src", "Times", "TSInfo", "Frame"] with
  | [anchor, src, times, info, frame] =>
    let (swts, hwts, hires) ← times.bind times?
    return ⟨← Json.present? anchor, ← Json.optional? ofJson? src, swts, hwts, hires, ← Json.present? info,
      ← Json.present? frame⟩
  | _ => none⟩

end TimestampReport

namespace Message

def type : Message → String
  | beacon _ => "BEACON"
  | rpc _ => "RPC"
  | tx _ => "TX"
  | rx _ => "RX"

def members : Message → List (String × Json)
  | beacon r => r.members
  | rpc c => c.members
  | tx r => r.members
  | rx r => r.members

-- A message is an object that names its type first.
instance : ToJson Message := ⟨fun m => Json.object (("Type", toJson m.type) :: m.members)⟩

-- The text of a message as it is sent.
def encode (m : Message) : String := (toJson m).render

def type? (j : Json) : Option String := do
  match ← j.fields? ["Type"] with
  | [type] => Json.present? type
  | _ => none

-- Reads the type first, and then the rest by the rules of that type.
def ofJson (j : Json) : Except TransportError Message :=
  let read := fun (body : Option Message) => body.elim (.error .malformed) .ok
  match type? j with
  | none => .error .malformed
  | some "BEACON" => read ((ofJson? j).map beacon)
  | some "RPC" => read ((ofJson? j).map rpc)
  | some "TX" => read ((ofJson? j).map tx)
  | some "RX" => read ((ofJson? j).map rx)
  | some type => .error (.badReply (.unknownType type))

-- Reads a datagram.
def decode (data : List UInt8) : Except TransportError Message :=
  match Json.parse data with
  | some j => ofJson j
  | none => .error .malformed

end Message

end UwbRanging
