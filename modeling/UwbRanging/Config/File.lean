import UwbRanging.Config.Basic
import UwbRanging.Text.Utf8
import UwbRanging.Toml.Parser

namespace UwbRanging

def Prf.ofName : String → Option Prf
  | "16" => some mhz16
  | "64" => some mhz64
  | _ => none

namespace RangingConfig

def fieldNames : List String := ["min_distance_m", "max_distance_m", "delay1_ms", "delay2_ms", "wait_ms", "source",
  "speed_of_light", "prf", "baseline_m"]

open DataTree in
-- Reads a configuration. Missing settings keep their defaults.
def ofTree? {V : Type} [DataTree V] (v : V) : Option RangingConfig := do
  let start : RangingConfig := {}
  let millis := fun (old : UInt64) (v : Option V) => (orDefault old.toNat (nat? UInt64.size) v).map UInt64.ofNat
  match ← fields? fieldNames v with
  | [min, max, delay1, delay2, wait, source, speed, prf, baseline] =>
    return {
      minDistance := ← orDefault start.minDistance float? min
      maxDistance := ← orDefault start.maxDistance float? max
      delay1Ms := ← millis start.delay1Ms delay1
      delay2Ms := ← millis start.delay2Ms delay2
      waitMs := ← millis start.waitMs wait
      source := ← orDefault start.source (fun s => (choice? s).bind TimestampSource.ofName) source
      speedOfLight := ← orDefault start.speedOfLight float? speed
      prf := ← orDefault start.prf (fun s => (choice? s).bind Prf.ofName) prf
      baseline := ← optional? float? baseline }
  | _ => none

-- The table of a document that holds the configuration. It may be missing.
def ofDocument? (document : Toml) : Option RangingConfig := do
  match ← DataTree.fields? ["ranging"] document with
  | [table] => DataTree.orDefault {} ofTree? table
  | _ => none

-- Reads the configuration from a document's text and checks it.
def parse (text : List Char) : Except ConfigError RangingConfig :=
  match (Toml.parse text).bind ofDocument? with
  | some c => c.validate
  | none => .error .parse

-- Reads a file. Without a file, or if it is no text, nothing can be read.
def load (file : Option (List UInt8)) : Except ConfigError RangingConfig :=
  match file.bind Text.decodeUtf8 with
  | some text => parse text
  | none => .error .io

end RangingConfig

end UwbRanging
