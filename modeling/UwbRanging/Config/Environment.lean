import UwbRanging.Config.Basic

namespace UwbRanging

-- Environment variables by name.
abbrev Environment := List (String × String)

namespace Environment

-- The variables that are looked at.
def names : List String := ["TAIL_MIN_DISTANCE_M", "TAIL_MAX_DISTANCE_M", "TAIL_DELAY1_MS", "TAIL_DELAY2_MS",
  "TAIL_WAIT_MS", "TAIL_TIMESTAMP_SOURCE", "TAIL_SPEED_OF_LIGHT", "TAIL_PRF", "TAIL_BASELINE_M"]

-- A variable's value, if it is set and can be read.
def read? {α : Type} (env : Environment) (name : String) (parse : String → Option α) : Option α :=
  (env.lookup name).bind parse

def float? (env : Environment) (name : String) : Option Float :=
  env.read? name fun s => Decimal.readFloat s.toList

-- A natural number below `size`.
def nat? (env : Environment) (name : String) (size : Nat) : Option Nat :=
  env.read? name fun s => (Decimal.readNat s.toList).filter (· < size)

def millis? (env : Environment) (name : String) : Option UInt64 := (env.nat? name UInt64.size).map UInt64.ofNat

end Environment

namespace RangingConfig

-- The configuration in which each readable variable takes the place of a value.
def override (c : RangingConfig) (env : Environment) : RangingConfig where
  minDistance := (env.float? "TAIL_MIN_DISTANCE_M").getD c.minDistance
  maxDistance := (env.float? "TAIL_MAX_DISTANCE_M").getD c.maxDistance
  delay1Ms := (env.millis? "TAIL_DELAY1_MS").getD c.delay1Ms
  delay2Ms := (env.millis? "TAIL_DELAY2_MS").getD c.delay2Ms
  waitMs := (env.millis? "TAIL_WAIT_MS").getD c.waitMs
  source := (env.read? "TAIL_TIMESTAMP_SOURCE" fun s => (TimestampSource.parse s).toOption).getD c.source
  speedOfLight := (env.float? "TAIL_SPEED_OF_LIGHT").getD c.speedOfLight
  prf := ((env.nat? "TAIL_PRF" UInt32.size).bind Prf.ofMhz).getD c.prf
  baseline := (env.float? "TAIL_BASELINE_M").or c.baseline

-- Puts the environment's values in, then checks the whole.
def withEnvironment (c : RangingConfig) (env : Environment) : Except ConfigError RangingConfig :=
  (c.override env).validate

def ofEnvironment (env : Environment) : Except ConfigError RangingConfig := withEnvironment {} env

end RangingConfig

end UwbRanging
