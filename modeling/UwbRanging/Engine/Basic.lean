import UwbRanging.Engine.Attempt
import UwbRanging.Engine.Timeline

namespace UwbRanging

-- What an engine is about. It waits for the timestamps of three blinks in turn.
inductive RangingState where
  | idle
  | awaitingT1
  | awaitingT2
  | awaitingT3
  | complete
  | timedOut
  | failed
  deriving DecidableEq, Repr, Inhabited

namespace RangingState

def name : RangingState → String
  | idle => "Idle"
  | awaitingT1 => "AwaitingT1"
  | awaitingT2 => "AwaitingT2"
  | awaitingT3 => "AwaitingT3"
  | complete => "Complete"
  | timedOut => "TimedOut"
  | failed => "Failed"

-- The state in which an engine asks for a blink after so many others of the attempt.
def awaiting (asked : Nat) : RangingState :=
  if asked = 0 then awaitingT1 else if asked = 1 then awaitingT2 else awaitingT3

-- The state in which an attempt leaves the engine. One that comes to no result, because a sum stops the program, leaves
-- it waiting for the last blink's timestamps.
def after {α : Type} : Option (Except RangingError α) → RangingState
  | none => awaitingT3
  | some (.ok _) => complete
  | some (.error e) => if e.isTimeout then timedOut else failed

end RangingState

-- Who takes part in an attempt. The first device blinks first and third, the second one answers, and
-- a third one may listen.
structure Trio where
  dut : Eui64
  reference : Eui64
  listener : Option Eui64 := none
  deriving DecidableEq, Repr

namespace Trio

-- The device whose clock gives times 1, 4 and 5. The reference gives the others.
def first (t : Trio) : Eui64 := t.listener.getD t.dut

-- The devices that must report on every blink.
def reporters (t : Trio) : List Eui64 := [t.first, t.reference]

-- The devices that blink, in order.
def blinkers (t : Trio) : List Eui64 := [t.dut, t.reference, t.dut]

end Trio

-- What the network does when it is asked for a blink: whether the request goes out, and what is
-- reported before the engine goes on. All times are in nanoseconds.
structure BlinkStep where
  sent : Except TransportError Unit := .ok ()
  reports : List Delivery := []
  -- how long the request takes
  took : Nat := 0
  -- by how much each sleep after the request takes longer than it should
  oversleeps : Nat → Nat := fun _ => 0

-- What the network and the clock do during one attempt.
structure Script where
  -- the engine's timeline, and what the clock shows, when the attempt begins
  clock : ClockedTimeline := .startAt 0
  -- reported before the first blink
  before : List Delivery := []
  -- for the blinks in order; a missing entry is a blink that goes out and is not reported
  blinks : List BlinkStep := []
  -- reported while the engine waits
  waiting : List Delivery := []
  -- reported after the wait, before the first, the second and the third exchange is taken
  beforeFirst : List Delivery := []
  beforeSecond : List Delivery := []
  beforeThird : List Delivery := []

-- What the engine did during an attempt, and what became of the reports that came meanwhile.
inductive EngineEvent where
  -- a blink was asked for, with so many exchanges in flight
  | blink (id : BlinkId) (device : Eui64) (inflight : Nat)
  | report (id : BlinkId) (device : Eui64) (kept : Bool)
  deriving DecidableEq, Repr

-- A request for a blink, with the engine's state and the table at that moment, and the network's answer.
structure BlinkCall where
  device : Eui64
  id : BlinkId
  state : RangingState
  table : ExchangeTable
  answer : Except TransportError Unit

-- The blinks of an attempt so far: the table, the ids in order, the requests, and the error that ended them.
structure Issued where
  table : ExchangeTable
  ids : List BlinkId := []
  calls : List BlinkCall := []
  events : List EngineEvent := []
  error : Option TransportError := none

namespace Issued

-- Files the reports of one blink one by one and notes which were kept.
def file (s : Issued) (d : Delivery) : Issued :=
  { s with
    table := s.table.deliver d
    events := s.events ++ [.report d.id d.record.device (s.table.isLive d.id)] }

-- Opens an exchange for a blink of the device and asks the network for it.
def request (s : Issued) (device : Eui64) (answer : Except TransportError Unit) : Issued :=
  let (id, table) := s.table.create
  { s with
    table := table
    calls := s.calls ++ [⟨device, id, RangingState.awaiting s.calls.length, table, answer⟩]
    events := s.events ++ [.blink id device table.size] }

-- Asks for a blink and files what is reported before the answer. If the request does not go out, the exchange is
-- dropped.
def blink (s : Issued) (device : Eui64) (step : BlinkStep) : Issued :=
  let id := s.table.create.1
  let s := step.reports.foldl file (s.request device step.sent)
  match step.sent with
  | .ok _ => { s with ids := s.ids ++ [id] }
  | .error e => { s with table := s.table.purge id, error := some e }

-- The blinks of these devices in order, up to the first that does not go out.
def blinkAll (s : Issued) : List Eui64 → List BlinkStep → Issued
  | [], _ => s
  | device :: devices, steps =>
    let s := s.blink device (steps.headD {})
    if s.error.isSome then s else s.blinkAll devices steps.tail

end Issued

-- The exchanges of three ids, taken out of the table one after another.
def takeThree (table : ExchangeTable) (ids : List BlinkId) (script : Script) :
    List (Option Exchange) × ExchangeTable :=
  match ids with
  | [a, b, c] =>
    let (first, table) := (table.deliverAll script.beforeFirst).take a
    let (second, table) := (table.deliverAll script.beforeSecond).take b
    let (third, table) := (table.deliverAll script.beforeThird).take c
    ([first, second, third], table)
  | _ => ([], table)

-- The nap that follows a blink.
def BlinkStep.nap (step : BlinkStep) (delay : Nat) : Nap := ⟨step.took, delay, step.oversleeps⟩

-- What the engine asks of its timeline before the blinks of an attempt, one by one. Before the first blink the anchor
-- is moved to the present, and the others follow after the configured gaps.
def RangingConfig.pauses (config : RangingConfig) (steps : List BlinkStep) : List TimelineCall :=
  [.sync 0, .nap ((steps.getD 0 {}).nap config.delay1Nanos), .nap ((steps.getD 1 {}).nap config.delay2Nanos)]

-- What the clock shows when the next blink of an attempt is asked for, if it showed `start` at the beginning.
def RangingConfig.due (config : RangingConfig) (start : ClockedTimeline) (steps : List BlinkStep) : Nat :=
  (start.run ((config.pauses steps).take (steps.length + 1))).now

-- What an attempt leaves: its result, unless a sum stopped the program, the engine's state, the table, the requests
-- for blinks, the events, when the requests were made, and the timeline at the last one.
structure Run where
  result : Option (Except RangingError TwrOutcome)
  state : RangingState
  table : ExchangeTable
  calls : List BlinkCall
  events : List EngineEvent
  times : List Nat
  clock : ClockedTimeline

-- How an attempt goes on after its requests: what it comes to, and the table. Its exchanges are taken if all requests
-- went out, and whatever the result is, none of them stays. Only where a sum stops the program nothing more is done.
def Issued.finish (s : Issued) (config : RangingConfig) (trio : Trio) (script : Script) :
    Option (Except RangingError TwrOutcome) × ExchangeTable :=
  match s.error with
  | some e => (some (.error (.transport e)), s.ids.foldl ExchangeTable.purge s.table)
  | none =>
    let waited := s.table.await s.ids trio.reporters script.waiting
    let (exchanges, table) := takeThree waited s.ids script
    let result := config.conclude exchanges trio.first trio.reference trio.listener.isSome
    (result, if result.isSome then s.ids.foldl ExchangeTable.purge table else table)

-- One ranging attempt. The engine issues three blinks without waiting for reports in between, waits once for
-- all reports, and takes the three exchanges.
def RangingConfig.perform (config : RangingConfig) (table : ExchangeTable) (trio : Trio) (script : Script) : Run :=
  let issued := Issued.blinkAll { table := table.deliverAll script.before } trio.blinkers script.blinks
  let pauses := (config.pauses script.blinks).take issued.calls.length
  let (result, table) := issued.finish config trio script
  { result := result
    state := RangingState.after result
    table := table
    calls := issued.calls
    events := issued.events
    times := script.clock.readings pauses
    clock := script.clock.run pauses }

end UwbRanging
