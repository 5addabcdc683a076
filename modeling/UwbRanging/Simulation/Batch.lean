import UwbRanging.Engine.Basic
import UwbRanging.Engine.Tally
import UwbRanging.Simulation.Air
import UwbRanging.Transport.Endpoint

namespace UwbRanging

-- The simulated air while a batch runs: the true time, in nanoseconds, and the source of the random
-- values.
structure LiveAir where
  air : Air
  now : Nat := 0
  gen : StdGen

namespace LiveAir

-- Every datagram takes this long, in nanoseconds.
def latency : Nat := 200000

def wait (l : LiveAir) (nanos : Nat) : LiveAir := { l with now := l.now + nanos }

def till (l : LiveAir) (time : Nat) : LiveAir := { l with now := time }

-- Sends a text to the daemon of one place.
def send (place : Nat) (text : String) (l : LiveAir) : Except TransportError (List (List UInt8)) × LiveAir :=
  let l := l.wait latency
  let (draws, gen) := Draws.take l.air.daemons.length l.gen
  let now := Binary64.ofRatio l.now 1000000000
  let (replies, air) := l.air.receive place (Text.encodeUtf8 text) now draws
  (.ok (replies.map fun r => Text.encodeUtf8 r.2.encode), { l with air := air, gen := gen })

-- The link from the host to the daemons, which are known by their places.
def link : Link LiveAir Nat := ⟨send⟩

end LiveAir

-- A batch of ranging attempts.
structure Batch where
  config : RangingConfig
  endpoint : Endpoint Nat
  air : LiveAir
  -- the engine's
  timeline : Timeline
  tally : BatchTally := {}
  -- the marks printed so far
  marks : List Char := []
  -- whether a sum has stopped the program
  stopped : Bool := false

namespace Batch

-- Issues one blink outside of the engine: what the engine will see of it.
def blinkStep (s : Endpoint Nat × LiveAir) (device : Eui64) (id : BlinkId) : BlinkStep × (Endpoint Nat × LiveAir) :=
  match s.1.addressOf device with
  | .error e => ({ sent := .error e }, s)
  | .ok place =>
    match LiveAir.link.send place (Message.beacon (BeaconRequest.forBlink id)).encode s.2 with
    | (.error e, air) => ({ sent := .error e, took := LiveAir.latency }, (s.1, air))
    | (.ok datagrams, air) =>
      let reports := datagrams.filterMap fun d => (Message.decode d).toOption.bind Message.delivery?
      ({ reports := reports, took := LiveAir.latency }, (s.1, air))

-- What the air does when an attempt's three blinks are issued. In between it waits as the engine does on its
-- timeline. Sleeps take as long as they should.
def script (config : RangingConfig) (trio : Trio) (next : BlinkId) (timeline : Timeline) (s : Endpoint Nat × LiveAir) :
    Script × (Endpoint Nat × LiveAir) :=
  let clock : ClockedTimeline := ⟨timeline, s.2.now⟩
  let (first, s) := blinkStep s trio.dut next
  let (second, s) := blinkStep (s.1, s.2.till (config.due clock [first])) trio.reference (next + 1)
  let (third, s) := blinkStep (s.1, s.2.till (config.due clock [first, second])) trio.dut (next + 2)
  ({ clock := clock, blinks := [first, second, third] }, s)

-- One attempt, counted. An attempt that is stopped leaves nothing to count.
def step (b : Batch) (trio : Trio) : Batch :=
  let (script, (endpoint, air)) := script b.config trio b.endpoint.table.next b.timeline (b.endpoint, b.air)
  let run := b.config.perform endpoint.table trio script
  let after := { b with endpoint := { endpoint with table := run.table }, air := air, timeline := run.clock.timeline }
  match run.result with
  | none => { after with stopped := true }
  | some result =>
    let (mark, tally) := b.tally.record result
    let air := if run.state = .timedOut then air.wait b.config.waitNanos else air
    { after with air := air, tally := tally, marks := b.marks ++ mark.toList }

-- So many attempts, up to the first that is stopped.
def run (b : Batch) (trio : Trio) : (count : Nat) → Batch
  | 0 => b
  | count + 1 =>
    let b := b.step trio
    if b.stopped then b else b.run trio count

-- Connects to the daemons of all places in order and gives their EUIs.
def connectAll (places : List Nat) : Exchanging LiveAir Nat (List Eui64) := places.mapM LiveAir.link.connect

end Batch

end UwbRanging
