import UwbRanging.Proofs.Engine.Slots
import UwbRanging.Proofs.Simulation.Batch

namespace UwbRanging

namespace Trio

variable (t : Trio)

def devices : List Eui64 := t.dut :: t.reference :: t.listener.toList

-- The device that sends the blink of a slot.
def senderOf (slot : Slot) : Eui64 := if slot.blink = 1 then t.reference else t.dut

theorem deviceOf_t1 {t : Trio} {listener : Eui64} (hlistener : t.listener = some listener) :
    t.deviceOf .t1 = listener :=
  congrArg (Option.getD · t.dut) hlistener

theorem blinkers_blink (slot : Slot) : t.blinkers[slot.blink]? = some (t.senderOf slot) := by cases slot <;> rfl

theorem deviceOf_mem_devices (slot : Slot) : t.deviceOf slot ∈ t.devices := by
  unfold deviceOf first devices
  cases t.listener <;> cases slot <;> simp [Slot.onFirstClock]

-- A device hears the first blink: it is on the channel of the sender, and reports do not get lost.
def HeardBy (channel : Eui64 → UInt8) (lossRate : Float) (device : Eui64) : Prop :=
  channel device = channel t.dut ∧ lossRate ≤ 0.0

end Trio

namespace Attempt

-- What it takes to foretell an attempt: its devices are distinct and there, each device stays on its channel, and
-- reports get lost always or never.
structure Settled (a : Attempt) (start : Air) (blinks : Nat → SimBlink) (channel : Eui64 → UInt8) : Prop where
  channels : ∀ i < 3, ((blinks i).air start).OnChannels channel
  loss : start.noise.lossRate ≤ 0.0 ∨ start.noise.lossRate ≥ 1.0
  present : ∀ device ∈ a.trio.devices, device ∈ start.euis
  distinct : a.trio.devices.Nodup

namespace Simulated

-- A request that is refused ends the attempt, and else no exchange is empty.
theorem result_ne_timeout (config : RangingConfig) {table : ExchangeTable} {a : Attempt} {start : Air}
    {blinks : Nat → SimBlink} (h : a.Simulated start table.next blinks) (heuis : start.euis.Nodup) (waited : Nat) :
    (config.perform table a.trio a.script).result ≠ some (.error (.timeout waited)) := by
  cases hrefusal : Issued.refusal a.answers with
  | none => exact (h.hears heuis hrefusal).result_ne_timeout config hrefusal waited
  | some e =>
    obtain ⟨-, -, herror, -⟩ := a.issued_eq table
    intro hlate
    cases (a.perform_of_refused table config (herror.trans hrefusal)).1.symm.trans hlate

variable {a : Attempt} {start : Air} {next : BlinkId} {blinks : Nat → SimBlink} {channel : Eui64 → UInt8}
  (h : a.Simulated start next blinks) (hsettled : a.Settled start blinks channel)
include h hsettled

theorem refusal_eq_none : Issued.refusal a.answers = none := by
  refine Issued.refusal_eq_none fun e he => ?_
  obtain ⟨i, hi⟩ := List.mem_iff_getElem?.mp he
  obtain ⟨device, hdevice, -⟩ := Issued.exists_of_answers hi
  have hmem : device ∈ a.trio.blinkers := List.mem_of_getElem? hdevice
  have hpresent : device ∈ a.trio.devices := by
    simp only [Trio.blinkers, List.mem_cons, List.not_mem_nil, or_false] at hmem
    rcases hmem with rfl | rfl | rfl <;> simp [Trio.devices]
  exact h.known i e device (hsettled.present device hpresent) hdevice hi

-- Which slots get their reports.
theorem reported_iff (slot : Slot) : a.Reported (simReports start next blinks) slot ↔
    a.trio.deviceOf slot = a.trio.senderOf slot ∨
      (channel (a.trio.deviceOf slot) = channel (a.trio.senderOf slot) ∧ start.noise.lossRate ≤ 0.0) :=
  SimBlink.exists_report_iff _ (h.place (h.refusal_eq_none hsettled) (a.trio.blinkers_blink slot)).2 hsettled.loss
    (hsettled.channels _ slot.blink_lt) (hsettled.present _ (a.trio.deviceOf_mem_devices slot))

theorem reported_first (hlistener : a.trio.listener = none) : a.Reported (simReports start next blinks) .t1 :=
  (h.reported_iff hsettled .t1).mpr (.inl (congrArg (Option.getD · a.trio.dut) hlistener))

theorem reported_first_iff {listener : Eui64} (hlistener : a.trio.listener = some listener) :
    a.Reported (simReports start next blinks) .t1 ↔ a.trio.HeardBy channel start.noise.lossRate listener := by
  have hne : listener ≠ a.trio.dut := by
    rintro rfl
    exact (List.nodup_cons.mp hsettled.distinct).1 (List.mem_cons_of_mem _ (by simp [hlistener]))
  rw [h.reported_iff hsettled, Trio.deviceOf_t1 hlistener]
  exact or_iff_right hne

theorem reported_second_iff : a.Reported (simReports start next blinks) .t2 ↔
    a.trio.HeardBy channel start.noise.lossRate a.trio.reference := by
  have hne : a.trio.reference ≠ a.trio.dut := fun heq =>
    (List.nodup_cons.mp hsettled.distinct).1 (heq ▸ List.mem_cons_self)
  exact (h.reported_iff hsettled .t2).trans (or_iff_right hne)

-- The first two slots stand for all: the same devices hear each other on the later blinks.
theorem reported_all_iff : (∀ slot, a.Reported (simReports start next blinks) slot) ↔
    a.Reported (simReports start next blinks) .t1 ∧ a.Reported (simReports start next blinks) .t2 := by
  refine ⟨fun hall => ⟨hall .t1, hall .t2⟩, fun ⟨hfirst, hsecond⟩ slot => ?_⟩
  obtain ⟨hreference, hkept⟩ := (h.reported_second_iff hsettled).mp hsecond
  have hshared : channel a.trio.first = channel a.trio.dut := by
    cases hlistener : a.trio.listener with
    | none => rw [Trio.first, hlistener, Option.getD_none]
    | some listener =>
      rw [Trio.first, hlistener, Option.getD_some]
      exact ((h.reported_first_iff hsettled hlistener).mp hfirst).1
  rw [h.reported_iff hsettled]
  cases slot <;> simp [Trio.deviceOf, Trio.senderOf, Slot.onFirstClock, Slot.blink, hshared, hreference, hkept]

end Simulated

end Attempt

-- Whatever gets lost, no attempt of a batch times out.
theorem Batch.result_ne_timeout (config : RangingConfig) (table : ExchangeTable) (trio : Trio) (timeline : Timeline)
    {e : Endpoint Nat} {start : Air} (heuis : start.euis.Nodup)
    (hplaces : ∀ device place, e.addressOf device = .ok place ↔ start.euis[place]? = some device) {l : LiveAir}
    (history : List Arrival) (hair : l.air = start.run history) (waited : Nat) :
    (config.perform table trio (script config trio table.next timeline (e, l)).1).result ≠
      some (.error (.timeout waited)) := by
  obtain ⟨blinks, hsim, -⟩ := exists_simulated config trio table.next timeline hplaces history hair
  exact hsim.result_ne_timeout config heuis waited

-- In a simulation an attempt of two devices has all six slots if and only if they share a channel and no report gets
-- lost, and else the reference's report on the first blink is missing. With a listener it is first the listener's
-- report that may be missing, if it is not on the channel of the first blink. An attempt never times out, because
-- whoever sends a blink reports it.
theorem RangingConfig.simulated_result (config : RangingConfig) {start : Air} (heuis : start.euis.Nodup)
    {table : ExchangeTable} {a : Attempt} {blinks : Nat → SimBlink} (hsim : a.Simulated start table.next blinks) :
    let result := (config.perform table a.trio a.script).result
    let hasAllSlots := a.HasAllSlots config table (simReports start table.next blinks)
    (∀ waited, result ≠ some (.error (.timeout waited))) ∧
    ∀ channel, a.Settled start blinks channel →
      let heard := a.trio.HeardBy channel start.noise.lossRate
      (a.trio.listener = none →
        (hasAllSlots ↔ heard a.trio.reference) ∧
        (¬ heard a.trio.reference → result = some (.error (.missingTimestamp .t2 a.trio.reference)))) ∧
      (∀ listener, a.trio.listener = some listener →
        (¬ heard listener → result = some (.error (.missingTimestamp .t1 listener))) ∧
        (heard listener → ¬ heard a.trio.reference →
          result = some (.error (.missingTimestamp .t2 a.trio.reference))) ∧
        (hasAllSlots ↔ heard listener ∧ heard a.trio.reference)) := by
  intro result hasAllSlots
  refine ⟨?late, ?missing⟩
  case late => exact hsim.result_ne_timeout config heuis
  case missing =>
    intro channel hsettled heard
    have hsent := hsim.refusal_eq_none hsettled
    have hhears := hsim.hears heuis hsent
    have hsecond := hsim.reported_second_iff hsettled
    have hall := (hhears.hasAllSlots_iff config hsent).trans (hsim.reported_all_iff hsettled)
    have hanswer (hfirst : a.Reported (simReports start table.next blinks) .t1) (hnone : ¬ heard a.trio.reference) :
        result = some (.error (.missingTimestamp .t2 a.trio.reference)) := by
      refine hhears.result_of_missing config hsent (mt hsecond.mp hnone) fun earlier hearlier => ?_
      cases List.mem_singleton.mp hearlier
      exact hfirst
    refine ⟨fun hlistener => ?_, fun listener hlistener => ?_⟩
    · have hfirst := hsim.reported_first hsettled hlistener
      exact ⟨hall.trans ((and_iff_right hfirst).trans hsecond), hanswer hfirst⟩
    · have hfirst := hsim.reported_first_iff hsettled hlistener
      refine ⟨fun hnone => ?_, fun hheard => hanswer (hfirst.mpr hheard), hall.trans (and_congr hfirst hsecond)⟩
      have hmissing := hhears.result_of_missing config hsent (mt hfirst.mp hnone) nofun
      rwa [Trio.deviceOf_t1 hlistener] at hmissing

namespace Air

-- Three radios, the last one on another channel than the others.
def threeRadios : Scene :=
  let third : SimRadio := { eui := ⟨3⟩, position := ⟨0.0, 4.0, 0.0⟩, config := { channel := 5 } }
  { twoRadios with radios := twoRadios.radios ++ [third] }

def threeChannels (device : Eui64) : UInt8 := if device = ⟨3⟩ then 5 else 7

end Air

-- Attempts of a batch: the first two radios measure their distance, and then the third one listens.
theorem RangingConfig.simulated_result_threeRadios :
    let start := Air.ofScene Air.threeRadios 299792458.0
    let host : Endpoint Nat := { callTimeout := 0, devices := start.euis.zipIdx }
    let attempt := fun trio : Trio => Attempt.mk trio
      (Batch.script {} trio host.table.next (.startAt 0) (host, { air := start, gen := mkStdGen 1 })).1
    let pair := attempt { dut := ⟨1⟩, reference := ⟨2⟩ }
    let trio := attempt { dut := ⟨1⟩, reference := ⟨2⟩, listener := some ⟨3⟩ }
    start.euis.Nodup ∧
    (∃ blinks, pair.Simulated start host.table.next blinks ∧ pair.Settled start blinks Air.threeChannels ∧
      pair.HasAllSlots {} host.table (simReports start host.table.next blinks)) ∧
    (∃ blinks, trio.Simulated start host.table.next blinks ∧ trio.Settled start blinks Air.threeChannels ∧
      (RangingConfig.perform {} host.table trio.trio trio.script).result =
        some (.error (.missingTimestamp .t1 ⟨3⟩))) := by
  intro start host attempt pair trio
  have heuis : start.euis = [⟨1⟩, ⟨2⟩, ⟨3⟩] := rfl
  have hnodup : start.euis.Nodup := by
    rw [heuis]
    decide
  have hchannel : (start.run []).OnChannels Air.threeChannels := by
    have hdaemons : (start.run []).daemons = Air.threeRadios.radios.map fun r => ⟨r, ⟨0⟩⟩ := rfl
    rw [Air.OnChannels, hdaemons]
    decide
  have hloss : start.noise.lossRate ≤ 0.0 := by decide
  have hplaces := Endpoint.addressOf_zipIdx (e := host) rfl hnodup
  have hbatch (t : Trio) := Batch.exists_simulated {} t host.table.next (.startAt 0) hplaces
    (l := { air := start, gen := mkStdGen 1 }) [] rfl
  refine ⟨hnodup, ?_, ?_⟩
  · obtain ⟨blinks, hsim, hblinks⟩ := hbatch { dut := ⟨1⟩, reference := ⟨2⟩ }
    have hsettled : pair.Settled start blinks Air.threeChannels :=
      ⟨hblinks _ hchannel, .inl hloss, by rw [heuis]; decide, by decide⟩
    have hheard : pair.trio.HeardBy Air.threeChannels start.noise.lossRate ⟨2⟩ := ⟨rfl, hloss⟩
    exact ⟨blinks, hsim, hsettled, (((RangingConfig.simulated_result {} hnodup hsim).2 _ hsettled).1 rfl).1.mpr hheard⟩
  · obtain ⟨blinks, hsim, hblinks⟩ := hbatch { dut := ⟨1⟩, reference := ⟨2⟩, listener := some ⟨3⟩ }
    have hsettled : trio.Settled start blinks Air.threeChannels :=
      ⟨hblinks _ hchannel, .inl hloss, by rw [heuis]; decide, by decide⟩
    have hnone : ¬ trio.trio.HeardBy Air.threeChannels start.noise.lossRate ⟨3⟩ := fun h => absurd h.1 (by decide)
    exact ⟨blinks, hsim, hsettled, (((RangingConfig.simulated_result {} hnodup hsim).2 _ hsettled).2 _ rfl).1 hnone⟩

end UwbRanging
