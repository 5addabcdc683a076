import UwbRanging.Proofs.Engine.Hearing
import UwbRanging.Proofs.Simulation.Transmission

namespace UwbRanging

namespace Air

-- The channels that the devices are on.
def OnChannels (air : Air) (channel : Eui64 → UInt8) : Prop :=
  ∀ d ∈ air.daemons, d.radio.config.channel = channel d.radio.eui

theorem mem_hearers_iff {air : Air} {channel : Eui64 → UInt8} (hchannel : air.OnChannels channel) {d : SimDaemon}
    (hd : d ∈ air.daemons) (device : Eui64) : device ∈ air.hearers d.radio ↔
      device ∈ air.euis ∧ device ≠ d.radio.eui ∧ channel device = channel d.radio.eui ∧ air.noise.lossRate ≤ 0.0 := by
  constructor
  · intro hmem
    obtain ⟨other, hother, rfl⟩ := List.mem_map.mp hmem
    obtain ⟨hother, hheard⟩ := List.mem_filter.mp hother
    obtain ⟨hne, hshared, hkept⟩ := of_decide_eq_true hheard
    rw [hchannel other hother, hchannel d hd] at hshared
    exact ⟨List.mem_map.mpr ⟨other, hother, rfl⟩, hne, hshared, hkept⟩
  · rintro ⟨hmem, hne, hshared, hkept⟩
    obtain ⟨other, hother, rfl⟩ := List.mem_map.mp hmem
    rw [← hchannel other hother, ← hchannel d hd] at hshared
    exact List.mem_map.mpr ⟨other, List.mem_filter.mpr ⟨hother, decide_eq_true ⟨hne, hshared, hkept⟩⟩, rfl⟩

end Air

-- A blink that a daemon is asked for: what the daemons have handled before, the place of this one, the true time, and
-- the random values.
structure SimBlink where
  history : List Arrival
  place : Nat
  time : Float
  draws : List Draws

namespace SimBlink

variable (b : SimBlink) (start : Air) (id : BlinkId)

def air : Air := start.run b.history

-- The request as it comes to the daemon.
def request : Arrival :=
  ⟨b.place, Text.encodeUtf8 (Message.beacon (BeaconRequest.forBlink id)).encode, b.time, b.draws⟩

-- The messages that the daemons send back.
def replies : List (Nat × Message) := ((b.air start).receive b.place (b.request id).datagram b.time b.draws).1

-- What the daemons make known of the blink: the records that their datagrams carry.
def reports : List Delivery :=
  ((b.replies start id).map fun r => Text.encodeUtf8 r.2.encode).filterMap fun d =>
    (Message.decode d).toOption.bind Message.delivery?

theorem reports_eq : b.reports start id = deliveries (b.replies start id) := deliveries_encode _

variable {b start} {device : Eui64} (hdevice : start.euis[b.place]? = some device)
include hdevice

theorem broadcast : ∃ d, (b.air start).daemons[b.place]? = some d ∧ d.radio.eui = device ∧
    Broadcast id device ((b.air start).reporters d.radio b.draws) (b.reports start id) := by
  have hplace : (b.air start).euis[b.place]? = some device := by rwa [air, Air.euis_run]
  obtain ⟨d, hd, rfl⟩ := Option.map_eq_some_iff.mp ((List.getElem?_map ..).symm.trans hplace)
  have hid : (BeaconRequest.forBlink id).blinkId = .ok id := BeaconRequest.blinkId_of_reference rfl
  obtain ⟨bytes, -, hdecode, htransmit⟩ := (b.air start).exists_transmit b.time b.draws hd hid
  refine ⟨d, hd, rfl, ?_⟩
  rw [reports_eq, replies, request, Air.receive_encode, Air.handle, hd]
  simp only [htransmit]
  exact Air.broadcast_propagate hdecode b.time

theorem id_of_mem_reports {id : BlinkId} {d : Delivery} (hd : d ∈ b.reports start id) : d.id = id := by
  obtain ⟨_, -, -, hbroadcast⟩ := broadcast id hdevice
  exact hbroadcast.ids d hd

-- A transmitter always reports its own blink.
theorem exists_own : ∃ d ∈ b.reports start id, d.record.device = device := by
  obtain ⟨d, hd, rfl, hbroadcast⟩ := broadcast id hdevice
  exact hbroadcast.exists_delivery (Air.mem_reporters_self hd b.draws)

theorem nodup_reports (heuis : start.euis.Nodup) : ((b.reports start id).map (·.record.device)).Nodup := by
  obtain ⟨d, -, -, hbroadcast⟩ := broadcast id hdevice
  refine hbroadcast.devices.nodup_iff.mpr (Air.nodup_reporters ?_)
  rwa [air, Air.euis_run]

-- Who else reports a blink.
theorem exists_report_iff (hloss : start.noise.lossRate ≤ 0.0 ∨ start.noise.lossRate ≥ 1.0) {channel : Eui64 → UInt8}
    (hchannel : (b.air start).OnChannels channel) {other : Eui64} (hother : other ∈ start.euis) :
    (∃ d ∈ b.reports start id, d.record.device = other) ↔
      other = device ∨ (channel other = channel device ∧ start.noise.lossRate ≤ 0.0) := by
  obtain ⟨d, hd, rfl, hbroadcast⟩ := broadcast id hdevice
  have hnoise : (b.air start).noise = start.noise := Air.noise_run ..
  have hpresent : other ∈ (b.air start).euis := by rwa [air, Air.euis_run]
  have hreporter : (∃ d ∈ b.reports start id, d.record.device = other) ↔
      other ∈ (b.air start).reporters d.radio b.draws := by
    rw [← hbroadcast.devices.mem_iff, List.mem_map]
  rw [hreporter, Air.mem_reporters_iff (hnoise ▸ hloss) hd, Air.mem_hearers_iff hchannel (List.mem_of_getElem? hd),
    hnoise]
  by_cases hown : other = d.radio.eui
  · simp [hown]
  · simp [hown, hpresent]

end SimBlink

-- What the daemons make known of the blinks of an attempt.
def simReports (start : Air) (next : BlinkId) (blinks : Nat → SimBlink) (i : Nat) : List Delivery :=
  (blinks i).reports start (next.nth i)

namespace Attempt

-- An attempt among simulated daemons. Each request that goes out comes to the daemon of its device, and all that the
-- daemons report of the blink comes before the wait is over, in any order. Nobody else reports on it.
structure Simulated (a : Attempt) (start : Air) (next : BlinkId) (blinks : Nat → SimBlink) : Prop where
  -- no request to a device that is there is refused
  known : ∀ (i : Nat) (e : TransportError), ∀ device ∈ start.euis, a.trio.blinkers[i]? = some device →
    a.answers[i]? ≠ some (.error e)
  asked : ∀ i : Nat, a.answers[i]? = some (.ok ()) → start.euis[(blinks i).place]? = a.trio.blinkers[i]?
  inTime : ∀ i : Nat, a.answers[i]? = some (.ok ()) → ∀ d ∈ simReports start next blinks i, d ∈ a.script.inTime i
  only : ∀ i : Nat, a.answers[i]? = some (.ok ()) → ∀ d ∈ a.script.reported, d.id = next.nth i →
    d ∈ simReports start next blinks i

namespace Simulated

variable {a : Attempt} {start : Air} {next : BlinkId} {blinks : Nat → SimBlink} (h : a.Simulated start next blinks)
include h

theorem place (hsent : Issued.refusal a.answers = none) {i : Nat} {device : Eui64}
    (hdevice : a.trio.blinkers[i]? = some device) :
    a.answers[i]? = some (.ok ()) ∧ start.euis[(blinks i).place]? = some device := by
  have hanswer : a.answers[i]? = some (.ok ()) := by
    rw [answers, Issued.answers_of_sent hsent, List.getElem?_map, hdevice, Option.map_some]
  exact ⟨hanswer, (h.asked i hanswer).trans hdevice⟩

theorem hears (heuis : start.euis.Nodup) (hsent : Issued.refusal a.answers = none) :
    a.Hears next (simReports start next blinks) := by
  have hplace (i : Nat) (hi : i < 3) : ∃ device, a.answers[i]? = some (.ok ()) ∧
      start.euis[(blinks i).place]? = some device := by
    obtain ⟨hanswer, hdevice⟩ := h.place hsent (List.getElem?_eq_getElem (l := a.trio.blinkers) hi)
    exact ⟨_, hanswer, hdevice⟩
  constructor
  case ids =>
    intro i hi d hd
    obtain ⟨device, -, hdevice⟩ := hplace i hi
    exact SimBlink.id_of_mem_reports hdevice hd
  case once =>
    intro i hi
    obtain ⟨device, -, hdevice⟩ := hplace i hi
    exact SimBlink.nodup_reports _ hdevice heuis
  case present =>
    intro i hi
    obtain ⟨device, -, hdevice⟩ := hplace i hi
    obtain ⟨d, hd, -⟩ := SimBlink.exists_own (next.nth i) hdevice
    exact List.ne_nil_of_mem hd
  case inTime =>
    intro i hi
    obtain ⟨-, hanswer, -⟩ := hplace i hi
    exact h.inTime i hanswer
  case only =>
    intro i hi
    obtain ⟨-, hanswer, -⟩ := hplace i hi
    exact h.only i hanswer

end Simulated

end Attempt

end UwbRanging
