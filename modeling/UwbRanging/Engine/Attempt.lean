import UwbRanging.Config.Basic
import UwbRanging.Exchange.Table

namespace UwbRanging

-- The radio readings that came with the reports of an attempt.
structure LinkDiagnostics where
  -- the responder's reception of the first blink
  responderRxDbm : Option Float
  responderFpDbm : Option Float
  -- the reception of the responder's blink
  initiatorRxDbm : Option Float
  initiatorFpDbm : Option Float
  xtalPpm : Option Float
  temperature : Float

-- The result of an attempt. In a run of three devices the distance is the detour through the
-- responder, or the difference of two distances if the baseline is known.
structure TwrOutcome where
  distance : Float
  timeOfFlight : Float
  clockPpm : Float
  roundTrip : Float
  diagnostics : LinkDiagnostics

-- The records of the six slots of an attempt.
structure SlotRecords where
  t1 : TimestampRecord
  t2 : TimestampRecord
  t3 : TimestampRecord
  t4 : TimestampRecord
  t5 : TimestampRecord
  t6 : TimestampRecord
  deriving DecidableEq, Repr

namespace SlotRecords

-- The record of one slot. An exchange on which nobody reported is a timeout, and one that lacks
-- only this device's report names it.
def ofSlot (exchanges : List (Option Exchange)) (p q : Eui64) (waited : Nat) (slot : Slot) :
    Except RangingError TimestampRecord :=
  let device := if slot.onFirstClock then p else q
  match (exchanges[slot.blink]?).join with
  | none => .error (.timeout waited)
  | some x =>
    match x.get? device with
    | some record => .ok record
    | none => if x.isEmpty then .error (.timeout waited) else .error (.missingTimestamp slot device)

-- The records of all slots. The first slot without one decides the error.
def collect (exchanges : List (Option Exchange)) (p q : Eui64) (waited : Nat) : Except RangingError SlotRecords := do
  let record := ofSlot exchanges p q waited
  return ⟨← record .t1, ← record .t2, ← record .t3, ← record .t4, ← record .t5, ← record .t6⟩

-- The times of the records, from the source that the configuration names.
def times (r : SlotRecords) (source : TimestampSource) : TwrTimestamps :=
  match source with
  | .raw =>
    let count := fun (x : TimestampRecord) => x.timestamp.info.rawts
    TwrTimestamps.ofRaw (count r.t1) (count r.t2) (count r.t3) (count r.t4) (count r.t5) (count r.t6)
  | .hires =>
    let time := fun (x : TimestampRecord) => x.timestamp.hires.value
    TwrTimestamps.ofHires (time r.t1) (time r.t2) (time r.t3) (time r.t4) (time r.t5) (time r.t6)

def diagnostics (r : SlotRecords) (prf : Prf) : LinkDiagnostics :=
  let t2 := r.t2.timestamp.info
  let t4 := r.t4.timestamp.info
  { responderRxDbm := t2.rxPowerDbm prf
    responderFpDbm := t2.fpPowerDbm prf
    initiatorRxDbm := t4.rxPowerDbm prf
    initiatorFpDbm := t4.fpPowerDbm prf
    xtalPpm := t4.xtalRatio.map fun r => r * 1e6
    temperature := t4.temperature }

-- The result that complete records give, unless a sum of their times stops the program. Without a listener the
-- distance is that of two devices.
def outcome (r : SlotRecords) (config : RangingConfig) (hasListener : Bool) :
    Option (Except RangingError TwrOutcome) :=
  ((r.times config.source).estimate config.source.clockHz).map fun estimate => do
    let e ← estimate
    let distance := if hasListener then e.threeWay config.speedOfLight config.baseline else e.twoWay config.speedOfLight
    let distance ← config.checkDistance distance
    return ⟨distance, e.tofSeconds, e.clockPpm, e.roundTripSeconds, r.diagnostics config.prf⟩

end SlotRecords

-- What the exchanges of an attempt come to. `p` and `q` are the devices whose clocks give times 1, 4 and 5, and times
-- 2, 3 and 6.
def RangingConfig.conclude (config : RangingConfig) (exchanges : List (Option Exchange)) (p q : Eui64)
    (hasListener : Bool) : Option (Except RangingError TwrOutcome) :=
  match SlotRecords.collect exchanges p q config.waitNanos with
  | .error e => some (.error e)
  | .ok records => records.outcome config hasListener

end UwbRanging
