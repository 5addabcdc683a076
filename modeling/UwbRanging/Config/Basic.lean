import UwbRanging.Frame.Level
import UwbRanging.Twr.Estimate

namespace UwbRanging

-- Which of the two times of a report is used for the distance.
inductive TimestampSource where
  | raw
  | hires
  deriving DecidableEq, Repr, Inhabited

-- Why a configuration is refused.
inductive InvalidConfig where
  | bounds (min max : Float)
  | speedOfLight
  | wait
  | source (text : String)

namespace InvalidConfig

def message : InvalidConfig → String
  | bounds min max => "distance bounds [" ++ Decimal.shortest min ++ ", " ++ Decimal.shortest max ++ "] are empty"
  | speedOfLight => "speed of light must be positive"
  | wait => "wait_ms must be non-zero"
  | source text => "timestamp source " ++ Text.quoted text

end InvalidConfig

-- Why no configuration could be had.
inductive ConfigError where
  | io
  | parse
  | invalid (why : InvalidConfig)

namespace ConfigError

def message : ConfigError → String
  | io => "reading config"
  | parse => "parsing config"
  | invalid why => "invalid config: " ++ why.message

end ConfigError

namespace TimestampSource

def name : TimestampSource → String
  | raw => "raw"
  | hires => "hires"

def ofName : String → Option TimestampSource
  | "raw" => some raw
  | "hires" => some hires
  | _ => none

-- Reads a name of any case with blanks around it.
def parse (text : String) : Except ConfigError TimestampSource :=
  let name := String.ofList ((Text.trimChars text.toList).map Char.toLower)
  match ofName name with
  | some source => .ok source
  | none => .error (.invalid (.source name))

def clockHz : TimestampSource → Float
  | raw => radioClockHz
  | hires => hiresClockHz

end TimestampSource

-- The parameters of a ranging attempt. Distances are in metres.
structure RangingConfig where
  -- a little below zero, because noise may do that to a short distance
  minDistance : Float := -1.0
  maxDistance : Float := 100.0
  -- the gaps between the blinks, and how long to wait for reports, in milliseconds
  delay1Ms : UInt64 := 10
  delay2Ms : UInt64 := 10
  waitMs : UInt64 := 1000
  source : TimestampSource := .hires
  speedOfLight : Float := UwbRanging.speedOfLight
  prf : Prf := .mhz64
  -- the distance of responder and listener, if it is known
  baseline : Option Float := none

namespace RangingConfig

instance : Inhabited RangingConfig := ⟨{}⟩

def nanosOfMillis (ms : UInt64) : Nat := ms.toNat * 1000000

def delay1Nanos (c : RangingConfig) : Nat := nanosOfMillis c.delay1Ms

def delay2Nanos (c : RangingConfig) : Nat := nanosOfMillis c.delay2Ms

def waitNanos (c : RangingConfig) : Nat := nanosOfMillis c.waitMs

-- Refuses bounds that hold no distance, a speed of light that is none, and a wait of no time.
def validate (c : RangingConfig) : Except ConfigError RangingConfig :=
  if !(c.minDistance.isFinite && c.maxDistance.isFinite) || c.maxDistance ≤ c.minDistance then
    .error (.invalid (.bounds c.minDistance c.maxDistance))
  else if !c.speedOfLight.isFinite || c.speedOfLight ≤ 0.0 then .error (.invalid .speedOfLight)
  else if c.waitMs = 0 then .error (.invalid .wait)
  else .ok c

-- Passes a distance within the bounds. One outside is refused and never moved to a bound.
def checkDistance (c : RangingConfig) (distance : Float) : Except RangingError Float :=
  if distance < c.minDistance || distance > c.maxDistance || !distance.isFinite then
    .error (.outOfRange distance c.minDistance c.maxDistance)
  else .ok distance

end RangingConfig

end UwbRanging
