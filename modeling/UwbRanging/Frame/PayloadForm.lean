import UwbRanging.Frame.HeaderForm
import UwbRanging.Frame.Payload

namespace UwbRanging

instance {n : Nat} : ToJson (Octets n) := ⟨fun o => toJson o.toList⟩

instance {n : Nat} : OfJson (Octets n) := ⟨fun j => do
  let bytes : List UInt8 ← ofJson? j
  if h : bytes.length = n then return ⟨bytes, h⟩ else none⟩

instance : ToJson ElementValue := ⟨fun
  | .int n => Json.variant "Int" n
  | .bytes data => Json.variant "Bytes" data⟩

instance : OfJson ElementValue := ⟨fun j => do
  let (name, content) ← j.variant?
  match name with
  | "Int" => return .int (← ofJson? content)
  | "Bytes" => return .bytes (← ofJson? content)
  | _ => none⟩

instance : ToJson Element := ⟨fun e => Json.object [("id", toJson e.id), ("value", toJson e.value)]⟩

instance : OfJson Element := ⟨fun j => do return ⟨← j.field? "id", ← j.field? "value"⟩⟩

instance : ToJson BlinkFlags := ⟨fun f => Json.object [
  ("listen", toJson f.listen), ("accel", toJson f.accel), ("dcin", toJson f.dcin), ("salted", toJson f.salted)]⟩

instance : OfJson BlinkFlags := ⟨fun j => do
  return {
    listen := ← j.field? "listen", accel := ← j.field? "accel"
    dcin := ← j.field? "dcin", salted := ← j.field? "salted" }⟩

instance : ToJson Blink := ⟨fun b => Json.object [
  ("flags", toJson b.flags), ("cookie", toJson b.cookie), ("ies", toJson b.elements)]⟩

instance : OfJson Blink := ⟨fun j => do
  return { flags := ← j.field? "flags", cookie := ← j.field? "cookie", elements := ← j.field? "ies" }⟩

-- A blink id is written as its bytes, the highest first.
def Beacon.referenceBytes (b : Beacon) : List UInt8 := (LittleEndian.encode 8 b.reference.toNat).reverse

instance : ToJson Beacon := ⟨fun b => Json.object [
  ("subtype", toJson b.subtype), ("flags", toJson b.flags), ("reference", toJson b.referenceBytes)]⟩

instance : OfJson Beacon := ⟨fun j => do
  let reference : Octets 8 ← j.field? "reference"
  return ⟨← j.field? "subtype", ← j.field? "flags", UInt64.ofNat (LittleEndian.decode reference.toList.reverse)⟩⟩

instance : ToJson RangingRequest := ⟨fun r => Json.object [("subtype", toJson r.subtype), ("flags", toJson r.flags)]⟩

instance : OfJson RangingRequest := ⟨fun j => do return ⟨← j.field? "subtype", ← j.field? "flags"⟩⟩

instance : ToJson RangingResponse := ⟨fun r => Json.object [
  ("tx_time", toJson r.txTime), ("rx_times", toJson r.rxTimes)]⟩

instance : OfJson RangingResponse := ⟨fun j => do return ⟨← j.field? "tx_time", ← j.field? "rx_times"⟩⟩

instance : ToJson Setting := ⟨fun s => Json.object [("key", toJson s.key), ("value", toJson s.value)]⟩

instance : OfJson Setting := ⟨fun j => do return ⟨← j.field? "key", ← j.field? "value"⟩⟩

instance : ToJson SettingsRequest := ⟨fun
  | .reset magic => Json.variant "Reset" (Json.object [("magic", toJson magic)])
  | .enumerate iterator => Json.variant "Enumerate" (Json.object [("iterator", toJson iterator)])
  | .read keys => Json.variant "Read" (Json.object [("keys", toJson keys)])
  | .write settings => Json.variant "Write" (Json.object [("entries", toJson settings)])
  | .delete keys => Json.variant "Delete" (Json.object [("keys", toJson keys)])
  | .salt bytes => Json.variant "Salt" bytes
  | .test data => Json.variant "Test" data⟩

instance : OfJson SettingsRequest := ⟨fun j => do
  let (name, content) ← j.variant?
  match name with
  | "Reset" => return .reset (← content.field? "magic")
  | "Enumerate" => return .enumerate (← content.field? "iterator")
  | "Read" => return .read (← content.field? "keys")
  | "Write" => return .write (← content.field? "entries")
  | "Delete" => return .delete (← content.field? "keys")
  | "Salt" => return .salt (← ofJson? content)
  | "Test" => return .test (← ofJson? content)
  | _ => none⟩

instance : ToJson SettingsResponse := ⟨fun
  | .reset magic => Json.variant "Reset" (Json.object [("magic", toJson magic)])
  | .enumerate iterator keys =>
    Json.variant "Enumerate" (Json.object [("iterator", toJson iterator), ("keys", toJson keys)])
  | .read settings => Json.variant "Read" (Json.object [("entries", toJson settings)])
  | .write code => Json.variant "Write" (Json.object [("code", toJson code)])
  | .delete code => Json.variant "Delete" (Json.object [("code", toJson code)])
  | .salt bytes => Json.variant "Salt" bytes
  | .test data => Json.variant "Test" data⟩

instance : OfJson SettingsResponse := ⟨fun j => do
  let (name, content) ← j.variant?
  match name with
  | "Reset" => return .reset (← content.field? "magic")
  | "Enumerate" => return .enumerate (← content.field? "iterator") (← content.field? "keys")
  | "Read" => return .read (← content.field? "entries")
  | "Write" => return .write (← content.field? "code")
  | "Delete" => return .delete (← content.field? "code")
  | "Salt" => return .salt (← ofJson? content)
  | "Test" => return .test (← ofJson? content)
  | _ => none⟩

instance : ToJson RxInfo := ⟨fun i => toJson [i.first, i.second, i.third, i.fourth]⟩

instance : OfJson RxInfo := ⟨fun
  | .arr [a, b, c, d] => return ⟨← ofJson? a, ← ofJson? b, ← ofJson? c, ← ofJson? d⟩
  | _ => none⟩

instance : ToJson TimingEntry := ⟨fun e => Json.object [
  ("addr", toJson e.addr), ("rx_time", toJson e.rxTime), ("rx_info", toJson e.rxInfo)]⟩

instance : OfJson TimingEntry := ⟨fun j => do
  return ⟨← j.field? "addr", ← j.field? "rx_time", ← j.field? "rx_info"⟩⟩

instance : ToJson TimingReport := ⟨fun t => Json.object [
  ("timing", toJson t.timing), ("tx_time", toJson t.txTime), ("entries", toJson t.entries)]⟩

instance : OfJson TimingReport := ⟨fun j => do
  return ⟨← j.field? "timing", ← j.field? "tx_time", ← j.field? "entries"⟩⟩

instance : ToJson Payload := ⟨fun
  | .blink b => Json.variant "Blink" b
  | .beacon b => Json.variant "Beacon" b
  | .rangingRequest r => Json.variant "RangingRequest" r
  | .rangingResponse r => Json.variant "RangingResponse" r
  | .configRequest r => Json.variant "ConfigRequest" r
  | .configResponse r => Json.variant "ConfigResponse" r
  | .timing t => Json.variant "Timing" t
  | .encrypted data => Json.variant "Encrypted" data
  | .raw data => Json.variant "Raw" data⟩

instance : OfJson Payload := ⟨fun j => do
  let (name, content) ← j.variant?
  match name with
  | "Blink" => return .blink (← ofJson? content)
  | "Beacon" => return .beacon (← ofJson? content)
  | "RangingRequest" => return .rangingRequest (← ofJson? content)
  | "RangingResponse" => return .rangingResponse (← ofJson? content)
  | "ConfigRequest" => return .configRequest (← ofJson? content)
  | "ConfigResponse" => return .configResponse (← ofJson? content)
  | "Timing" => return .timing (← ofJson? content)
  | "Encrypted" => return .encrypted (← ofJson? content)
  | "Raw" => return .raw (← ofJson? content)
  | _ => none⟩

end UwbRanging
