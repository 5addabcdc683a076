import UwbRanging.Frame.Level
import UwbRanging.Frame.Timestamp
import UwbRanging.Radio.Config
import UwbRanging.Simulation.Draws
import UwbRanging.Twr.Estimate

namespace UwbRanging

-- A place in metres.
structure Point where
  x : Float
  y : Float
  z : Float

namespace Point

def distance (p q : Point) : Float :=
  let dx := p.x - q.x
  let dy := p.y - q.y
  let dz := p.z - q.z
  (dx * dx + dy * dy + dz * dz).sqrt

end Point

-- A simulated radio: where it is, how its clock runs against the true time, and its settings.
structure SimRadio where
  eui : Eui64
  position : Point
  -- how fast its clock runs, in parts per million, and what it shows at time zero, in seconds
  ppm : Float := 0.0
  offset : Float := 0.0
  -- the antenna delay that it really has, both directions together
  antennaDelayNs : Float := Prf.mhz64.antennaDelayNs
  config : RadioConfig := {}

-- How the simulated air disturbs what is received.
structure Noise where
  -- the standard deviation of receive times, in picoseconds
  jitterPs : Float := 0.0
  -- the probability that a report gets lost
  lossRate : Float := 0.0
  rxDbmAt1m : Float := -62.0
  -- the standard deviation of the received power, in decibels
  rxDbmSigma : Float := 1.0

-- What decides how a frame is received.
structure Reception where
  distance : Float
  -- the clock of the sender
  senderPpm : Float

-- The seconds and nanoseconds of a time in seconds. Times before zero count as zero.
def Timespec.ofSeconds (t : Float) : Timespec :=
  let t := if t > 0.0 then t else 0.0
  let whole := t.floor
  let word := fun (x : Float) => Int64.ofInt (Binary64.clampToInt x Int64.minValue.toInt Int64.maxValue.toInt)
  ⟨word whole, word ((t - whole) * 1e9)⟩

namespace Noise

-- The error of a receive time, in seconds.
def jitter (n : Noise) (draws : Draws) : Float :=
  if n.jitterPs > 0.0 && n.jitterPs.isFinite then n.jitterPs * 1e-12 * draws.jitter else 0.0

-- The deviation of the received power, in decibels.
def spread (n : Noise) (draws : Draws) : Float :=
  if n.rxDbmSigma > 0.0 && n.rxDbmSigma.isFinite then n.rxDbmSigma * draws.spread else 0.0

-- Whether a report gets lost. At the ends of the range nothing or everything does. No chance can be
-- drawn at a rate that is not a number: the daemon would stop there, while here nothing gets lost. No
-- scenario sets such a rate.
def loses (n : Noise) (draws : Draws) : Bool :=
  if n.lossRate ≤ 0.0 then false else if n.lossRate ≥ 1.0 then true else draws.chance < n.lossRate

end Noise

namespace SimRadio

def distance (r other : SimRadio) : Float := r.position.distance other.position

-- What the radio's clock shows at a true time, in seconds.
def localTime (r : SimRadio) (t : Float) : Float := t * (1.0 + r.ppm * 1e-6) + r.offset

-- The period of the carrier integrator, and the preamble symbols of a clean link.
def integratorPeriod : UInt32 := 0x01f00000

def preambleSymbols : UInt16 := 1000

-- The level that a radio shows for a power.
def levelOfDbm (prf : Prf) (dbm : Float) : Float := Float.pow 10.0 ((dbm - prf.toDbm 1.0) / 10.0)

-- A number pressed between two bounds.
def clamp (low high x : Float) : Float := if x < low then low else if x > high then high else x

-- The power that the preamble's accumulated response shows.
def cirPower (prf : Prf) (dbm : Float) : UInt32 :=
  let rxp := 1000.0
  let power := levelOfDbm prf dbm * rxp * rxp / 131072.0
  UInt32.ofNat (Binary64.toNatBelow (if power < 4294967295.0 then power else 4294967295.0) UInt32.size)

-- The amplitude that three equal samples of the first path show.
def pathAmplitude (prf : Prf) (dbm : Float) : UInt16 :=
  let rxp := 1000.0
  let amplitude := (levelOfDbm prf dbm * rxp * rxp / 3.0).sqrt
  UInt16.ofNat (Binary64.toNatBelow (clamp 1.0 65535.0 amplitude) UInt16.size)

-- A ratio of signal to noise for a power.
def signalRatio (dbm : Float) : UInt16 := UInt16.ofNat (Binary64.toNatBelow (clamp 1.0 60.0 (dbm + 110.0)) UInt16.size)

-- The sender's crystal against the radio's own, on the carrier integrator of 19 bits.
def integrator (r : SimRadio) (senderPpm : Float) : UInt32 :=
  let offset := ((senderPpm - r.ppm) * 1e-6 * 32505856.0).round
  UInt32.ofNat (Binary64.clampToInt offset Int64.minValue.toInt Int64.maxValue.toInt % 0x80000).toNat

-- The diagnostic block of a received frame. The power falls with the square of the distance, and the
-- first path is a little weaker than the whole.
def receiveInfo (r : SimRadio) (rx : Reception) (noise : Noise) (draws : Draws) : Diagnostics :=
  let reach := if rx.distance > 1.0 then rx.distance else 1.0
  let rxDbm := noise.rxDbmAt1m - 20.0 * reach.log10 + noise.spread draws
  let fpDbm := rxDbm - 3.0
  let prf := r.config.effectivePrf
  let amplitude := pathAmplitude prf fpDbm
  let power := cirPower prf rxDbm
  { lqi := UInt16.ofNat (30 + draws.quality)
    snr := signalRatio rxDbm
    fpr := signalRatio fpDbm
    noise := UInt16.ofNat (20 + draws.noise)
    rxpacc := preambleSymbols
    fpIndex := UInt16.ofNat ((740 + draws.firstPath) * 64)
    fpAmpl1 := amplitude
    fpAmpl2 := amplitude
    fpAmpl3 := amplitude
    cirPwr := power
    fpPwr := power / 2
    ttcko := r.integrator rx.senderPpm
    ttcki := integratorPeriod }

-- The time at which the radio believes a frame to pass its antenna. The delay register makes up for
-- one direction of the antenna delay; what it misses is a bias of the range.
def antennaTime (r : SimRadio) (t : Float) (rx : Option Reception) (noise : Noise) (draws : Draws) : Float :=
  let physical := r.antennaDelayNs * 0.5e-9
  let programmed := Binary64.ofNat r.config.antd.toNat / radioClockHz
  match rx with
  | none => t - physical + programmed
  | some _ => t + physical - programmed + noise.jitter draws

-- The timestamp that the radio reports for a frame that is at its antenna at true time `t`.
def timestamp (r : SimRadio) (t : Float) (rx : Option Reception) (noise : Noise) (draws : Draws) : HardwareTimestamp :=
  let t := r.antennaTime t rx noise draws
  let here := r.localTime t
  let info := rx.elim {} fun rx => r.receiveInfo rx noise draws
  { sw := Timespec.ofSeconds t
    hw := Timespec.ofSeconds here
    hires := Hires.ofValue (Binary64.toNatBelow (here * hiresClockHz) (UInt64.size * UInt64.size))
    info := { info with
      rawts := UInt64.ofNat (Binary64.toNatBelow (here * radioClockHz) UInt64.size % counterRange)
      temp := Int16.ofNat (2300 + draws.temperature)
      volt := Int16.ofNat (3280 + draws.voltage) } }

end SimRadio

end UwbRanging
