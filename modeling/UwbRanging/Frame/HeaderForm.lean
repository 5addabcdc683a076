import UwbRanging.Frame.Header
import UwbRanging.Json.Form

namespace UwbRanging

instance : ToJson Eui64 := ⟨fun e => toJson e.text⟩

instance : OfJson Eui64 := ⟨fun j => j.text?.bind fun s => (Eui64.parse s).toOption⟩

instance : ToJson Address := ⟨fun a => toJson a.text⟩

instance : OfJson Address := ⟨fun j => j.text?.bind fun s => (Address.parse s).toOption⟩

def MacType.name? : MacType → Option String
  | beacon => some "Beacon"
  | data => some "Data"
  | ack => some "Ack"
  | command => some "Command"
  | reserved _ => none

instance : ToJson MacType := ⟨fun
  | .reserved bits => Json.variant "Reserved" bits
  | t => toJson t.name?⟩

instance : OfJson MacType := ⟨fun j => do
  let (name, content) ← j.variant?
  match name with
  | "Beacon" => return .beacon
  | "Data" => return .data
  | "Ack" => return .ack
  | "Command" => return .command
  | "Reserved" => return .reserved (← ofJson? content)
  | _ => none⟩

instance : ToJson Header := ⟨fun h => Json.object [
  ("frame_type", toJson h.type), ("version", toJson h.version), ("security", toJson h.security),
  ("pending", toJson h.pending), ("ack_request", toJson h.ackRequest), ("panid_compression", toJson h.panCompression),
  ("seq", toJson h.seq), ("dst_pan", toJson h.dstPan), ("dst_addr", toJson h.dst),
  ("src_pan", toJson h.srcPan), ("src_addr", toJson h.src)]⟩

-- A field that null empties and that stays as it is if it is not mentioned.
def Json.changedField? {α : Type} [OfJson α] (j : Json) (name : String) (old : Option α) : Option (Option α) :=
  if j.mentions name then j.field? name else some old

-- The header with the mentioned fields changed.
def Header.change (h : Header) (j : Json) : Option Header := do
  return {
    type := ← j.fieldOr "frame_type" h.type
    version := ← j.fieldOr "version" h.version
    security := ← j.fieldOr "security" h.security
    pending := ← j.fieldOr "pending" h.pending
    ackRequest := ← j.fieldOr "ack_request" h.ackRequest
    panCompression := ← j.fieldOr "panid_compression" h.panCompression
    seq := ← j.changedField? "seq" h.seq
    dstPan := ← j.fieldOr "dst_pan" h.dstPan
    dst := ← j.changedField? "dst_addr" h.dst
    srcPan := ← j.fieldOr "src_pan" h.srcPan
    src := ← j.changedField? "src_addr" h.src }

instance : OfJson Header := ⟨Header.change {}⟩

end UwbRanging
