import UwbRanging.Proofs.Engine.Pace
import UwbRanging.Proofs.Engine.Tally
import UwbRanging.Proofs.Simulation.Attempt
import UwbRanging.Simulation.Batch

namespace UwbRanging

namespace Air

-- A blink changes no settings.
theorem OnChannels.after_beacon {air : Air} {channel : Eui64 → UInt8} (h : air.OnChannels channel) {a : Arrival}
    {request : BeaconRequest} (ha : a.datagram = Text.encodeUtf8 (Message.beacon request).encode) :
    (air.after a).OnChannels channel := by
  have hradio (d : SimDaemon) : (d.receive a).radio = d.radio := by
    rw [SimDaemon.receive, ha, Message.decode_encode]
    dsimp only [SimDaemon.handle]
    split <;> rfl
  intro d hd
  rw [after_eq] at hd
  obtain ⟨i, hi⟩ := List.mem_iff_getElem?.mp hd
  rw [List.getElem?_modify] at hi
  obtain ⟨d', hd', rfl⟩ := Option.map_eq_some_iff.mp hi
  have hkept := h d' (List.mem_of_getElem? hd')
  split
  · rwa [hradio]
  · exact hkept

end Air

-- A host that knows the devices by their places.
theorem Endpoint.addressOf_zipIdx {e : Endpoint Nat} {devices : List Eui64} (hdevices : e.devices = devices.zipIdx)
    (hnodup : devices.Nodup) (device : Eui64) (place : Nat) :
    e.addressOf device = .ok place ↔ devices[place]? = some device := by
  rw [addressOf, hdevices, ← List.mk_mem_zipIdx_iff_getElem?]
  cases hlookup : devices.zipIdx.lookup device with
  | none =>
    have hnone := List.lookup_eq_none_iff.mp hlookup
    exact iff_of_false nofun fun hmem => by simpa using hnone _ hmem
  | some other =>
    obtain ⟨before, after, heq, -⟩ := List.lookup_eq_some_iff.mp hlookup
    have hother : (device, other) ∈ devices.zipIdx := by simp [heq]
    constructor
    · rintro ⟨⟩
      exact hother
    · intro hmem
      rw [List.mk_mem_zipIdx_iff_getElem?] at hother hmem
      obtain ⟨hlt, -⟩ := List.getElem?_eq_some_iff.mp hother
      rw [(List.getElem?_inj hlt hnodup).mp (hother.trans hmem.symm)]

-- What the network does when nothing is reported but right after the blinks.
def Script.ofSteps (clock : ClockedTimeline) (steps : Nat → BlinkStep) : Script :=
  { clock := clock, blinks := [steps 0, steps 1, steps 2] }

namespace Script

variable {clock : ClockedTimeline} {steps : Nat → BlinkStep} {d : Delivery}

theorem mem_inTime {i : Nat} (hi : i < 3) (hd : d ∈ (steps i).reports) : d ∈ (ofSteps clock steps).inTime i := by
  match i, hi with
  | 0, _ => simp [inTime, ofSteps, hd]
  | 1, _ => simp [inTime, ofSteps, hd]
  | 2, _ => simp [inTime, ofSteps, hd]

theorem exists_reported (hd : d ∈ (ofSteps clock steps).reported) : ∃ i < 3, d ∈ (steps i).reports := by
  simp only [reported, inTime, ofSteps, List.take_succ_cons, List.take_zero, List.drop_zero, List.flatMap_cons,
    List.flatMap_nil, List.append_nil, List.nil_append, List.mem_append] at hd
  rcases hd with hd | hd | hd
  · exact ⟨0, by decide, hd⟩
  · exact ⟨1, by decide, hd⟩
  · exact ⟨2, by decide, hd⟩

end Script

namespace Batch

theorem exists_of_answers {trio : Trio} {clock : ClockedTimeline} {steps : Nat → BlinkStep} {i : Nat}
    {answer : Except TransportError Unit} (h : (Attempt.answers ⟨trio, Script.ofSteps clock steps⟩)[i]? = some answer) :
    ∃ device, trio.blinkers[i]? = some device ∧ i < 3 ∧ (steps i).sent = answer := by
  obtain ⟨device, hdevice, hsent⟩ := Issued.exists_of_answers h
  obtain ⟨hi, -⟩ := List.getElem?_eq_some_iff.mp hdevice
  refine ⟨device, hdevice, hi, ?_⟩
  match i, hi with
  | 0, _ => exact hsent
  | 1, _ => exact hsent
  | 2, _ => exact hsent

-- What a device's request comes to: the host does not know the device, or its daemon blinks.
def Answered (e : Endpoint Nat) (start : Air) (device : Eui64) (id : BlinkId) (step : BlinkStep) (b : SimBlink) :
    Prop :=
  (∃ error, e.addressOf device = .error error ∧ step = { sent := .error error }) ∨
    (e.addressOf device = .ok b.place ∧ step = { reports := b.reports start id, took := LiveAir.latency })

namespace Answered

variable {e : Endpoint Nat} {start : Air} {device : Eui64} {id : BlinkId} {step : BlinkStep} {b : SimBlink}
  (h : Answered e start device id step b)
include h

theorem of_sent (hsent : step.sent = .ok ()) :
    e.addressOf device = .ok b.place ∧ step.reports = b.reports start id := by
  rcases h with ⟨error, -, rfl⟩ | ⟨haddress, rfl⟩
  · cases hsent
  · exact ⟨haddress, rfl⟩

theorem of_refused {error : TransportError} (hrefused : step.sent = .error error) :
    e.addressOf device = .error error := by
  rcases h with ⟨error', haddress, rfl⟩ | ⟨-, rfl⟩
  · cases hrefused
    exact haddress
  · cases hrefused

theorem sent_of_mem {d : Delivery} (hd : d ∈ step.reports) : step.sent = .ok () := by
  rcases h with ⟨error, -, rfl⟩ | ⟨-, rfl⟩
  · cases hd
  · rfl

end Answered

theorem air_till (l : LiveAir) (time : Nat) : (l.till time).air = l.air := rfl

theorem exists_blinkStep (e : Endpoint Nat) {start : Air} {l : LiveAir} {history : List Arrival}
    (hair : l.air = start.run history) (device : Eui64) (id : BlinkId) :
    ∃ step b l' history', blinkStep (e, l) device id = (step, (e, l')) ∧ Answered e start device id step b ∧
      b.history = history ∧ l'.air = start.run history' ∧
      ∀ channel, (start.run history).OnChannels channel → (start.run history').OnChannels channel := by
  unfold blinkStep
  cases haddress : e.addressOf device with
  | error error =>
    exact ⟨_, ⟨history, 0, 0.0, []⟩, l, history, rfl, .inl ⟨error, haddress, rfl⟩, rfl, hair, fun _ h => h⟩
  | ok place =>
    obtain ⟨b, hb⟩ : ∃ b : SimBlink, b = ⟨history, place, Binary64.ofRatio (l.wait LiveAir.latency).now 1000000000,
      (Draws.take l.air.daemons.length l.gen).1⟩ := ⟨_, rfl⟩
    have hafter : start.run (history ++ [b.request id]) = l.air.after (b.request id) := by
      rw [hair, Air.run, List.foldl_append]
      rfl
    refine ⟨{ reports := b.reports start id, took := LiveAir.latency }, b, { l.wait LiveAir.latency with
        air := l.air.after (b.request id), gen := (Draws.take l.air.daemons.length l.gen).2 },
      history ++ [b.request id], ?_, .inr ⟨by rw [hb, haddress], rfl⟩, by rw [hb], hafter.symm, fun channel h => ?_⟩
    · subst hb
      rw [SimBlink.reports, SimBlink.replies, SimBlink.air, ← hair]
      rfl
    · rw [hafter, hair]
      exact h.after_beacon rfl

-- An attempt's three blinks one after another.
theorem script_eq {e : Endpoint Nat} {config : RangingConfig} {trio : Trio} {next : BlinkId} {timeline : Timeline}
    {l l₁ l₂ l₃ : LiveAir} {step₁ step₂ step₃ : BlinkStep} (h₁ : blinkStep (e, l) trio.dut next = (step₁, (e, l₁)))
    (h₂ : blinkStep (e, l₁.till (config.due ⟨timeline, l.now⟩ [step₁])) trio.reference (next + 1) = (step₂, (e, l₂)))
    (h₃ : blinkStep (e, l₂.till (config.due ⟨timeline, l.now⟩ [step₁, step₂])) trio.dut (next + 2) =
      (step₃, (e, l₃))) :
    script config trio next timeline (e, l) =
      ({ clock := ⟨timeline, l.now⟩, blinks := [step₁, step₂, step₃] }, (e, l₃)) := by
  rw [script, h₁]
  simp only [h₂, h₃]

-- The simulated air is asked for each blink at the time at which the engine makes the request.
theorem times_script (config : RangingConfig) (trio : Trio) (next : BlinkId) (timeline : Timeline)
    (s : Endpoint Nat × LiveAir) (table : ExchangeTable) : ∃ s₁ s₂ : Endpoint Nat × LiveAir,
    let script := (script config trio next timeline s).1
    script.blinks = [(blinkStep s trio.dut next).1, (blinkStep s₁ trio.reference (next + 1)).1,
      (blinkStep s₂ trio.dut (next + 2)).1] ∧
    ∀ i t : Nat, (config.perform table trio script).times[i]? = some t →
      [s.2.now, s₁.2.now, s₂.2.now][i]? = some t := by
  refine ⟨_, _, rfl, fun i t ht => ?_⟩
  let attempt : Attempt := ⟨trio, (script config trio next timeline s).1⟩
  have hthree := attempt.length_calls_le config table
  obtain ⟨hi, rfl⟩ := attempt.of_getElem?_times config table ht
  rw [← config.due_take _ (show i ≤ 3 by omega)]
  match i, (show i < 3 by omega) with
  | 0, _ => rfl
  | 1, _ => rfl
  | 2, _ => rfl

section Script

variable {trio : Trio} {next : BlinkId} {e : Endpoint Nat} {start : Air} (clock : ClockedTimeline)
  (steps : Nat → BlinkStep) {blinks : Nat → SimBlink}
  (hplaces : ∀ device place, e.addressOf device = .ok place ↔ start.euis[place]? = some device)
  (hanswered : ∀ i device, trio.blinkers[i]? = some device → Answered e start device (next.nth i) (steps i) (blinks i))
include hplaces hanswered

theorem simulated_of_answered : Attempt.Simulated ⟨trio, Script.ofSteps clock steps⟩ start next blinks where
  known := by
    intro i error device hpresent hdevice hrefused
    obtain ⟨-, -, -, hsent⟩ := exists_of_answers hrefused
    obtain ⟨place, hplace⟩ := List.mem_iff_getElem?.mp hpresent
    have hunknown := (hanswered i device hdevice).of_refused hsent
    cases hunknown.symm.trans ((hplaces device place).mpr hplace)
  asked := by
    intro i hanswer
    obtain ⟨device, hdevice, -, hsent⟩ := exists_of_answers hanswer
    exact ((hplaces _ _).mp ((hanswered i device hdevice).of_sent hsent).1).trans hdevice.symm
  inTime := by
    intro i hanswer d hd
    obtain ⟨device, hdevice, hi, hsent⟩ := exists_of_answers hanswer
    obtain ⟨-, hreports⟩ := (hanswered i device hdevice).of_sent hsent
    refine Script.mem_inTime hi ?_
    rw [hreports]
    exact hd
  only := by
    intro i hanswer d hd hid
    obtain ⟨-, -, hi, -⟩ := exists_of_answers hanswer
    obtain ⟨j, hj, hd⟩ := Script.exists_reported hd
    have hdevice : trio.blinkers[j]? = some trio.blinkers[j] := List.getElem?_eq_getElem hj
    obtain ⟨haddress, hreports⟩ := (hanswered j _ hdevice).of_sent ((hanswered j _ hdevice).sent_of_mem hd)
    rw [hreports] at hd
    -- reports on another blink of the attempt have another id
    have hother := SimBlink.id_of_mem_reports ((hplaces _ _).mp haddress) hd
    have hsame : i = j := next.nth_inj hi hj (hid.symm.trans hother)
    rw [hsame]
    exact hd

end Script

-- The attempts of a batch are attempts among simulated daemons, provided that the host knows the daemons of all
-- devices.
theorem exists_simulated (config : RangingConfig) (trio : Trio) (next : BlinkId) (timeline : Timeline)
    {e : Endpoint Nat} {start : Air}
    (hplaces : ∀ device place, e.addressOf device = .ok place ↔ start.euis[place]? = some device)
    {l : LiveAir} (history : List Arrival) (hair : l.air = start.run history) :
    ∃ blinks, Attempt.Simulated ⟨trio, (script config trio next timeline (e, l)).1⟩ start next blinks ∧
      ∀ channel, (start.run history).OnChannels channel → ∀ i < 3, ((blinks i).air start).OnChannels channel := by
  obtain ⟨step₁, b₁, l₁, history₁, hstep₁, hanswered₁, hb₁, hair₁, hchannel₁⟩ := exists_blinkStep e hair trio.dut next
  obtain ⟨step₂, b₂, l₂, history₂, hstep₂, hanswered₂, hb₂, hair₂, hchannel₂⟩ := exists_blinkStep e
    (l := l₁.till (config.due ⟨timeline, l.now⟩ [step₁])) ((air_till ..).trans hair₁) trio.reference (next + 1)
  obtain ⟨step₃, b₃, l₃, history₃, hstep₃, hanswered₃, hb₃, hair₃, hchannel₃⟩ := exists_blinkStep e
    (l := l₂.till (config.due ⟨timeline, l.now⟩ [step₁, step₂])) ((air_till ..).trans hair₂) trio.dut (next + 2)
  rw [script_eq hstep₁ hstep₂ hstep₃]
  refine ⟨fun | 0 => b₁ | 1 => b₂ | _ => b₃, simulated_of_answered _ (fun | 0 => step₁ | 1 => step₂ | _ => step₃)
    hplaces fun i device hdevice => ?_, fun channel hchannel i hi => ?_⟩
  · match i, hdevice with
    | 0, hdevice =>
      obtain rfl : trio.dut = device := Option.some.inj hdevice
      exact hanswered₁
    | 1, hdevice =>
      obtain rfl : trio.reference = device := Option.some.inj hdevice
      exact hanswered₂
    | 2, hdevice =>
      obtain rfl : trio.dut = device := Option.some.inj hdevice
      have hid : next.nth 2 = next + 2 := UInt64.add_assoc next 1 1
      rw [hid]
      exact hanswered₃
  · match i, hi with
    | 0, _ => simpa only [SimBlink.air, hb₁] using hchannel
    | 1, _ => simpa only [SimBlink.air, hb₂] using hchannel₁ channel hchannel
    | 2, _ => simpa only [SimBlink.air, hb₃] using hchannel₂ channel (hchannel₁ channel hchannel)

-- An attempt is stopped, or its result is counted and its mark printed.
theorem step_counts (b : Batch) (trio : Trio) :
    ((b.step trio).stopped = true ∧ (b.step trio).tally = b.tally ∧ (b.step trio).marks = b.marks) ∨
    ∃ result, (b.step trio).stopped = b.stopped ∧ (b.step trio).tally = (b.tally.record result).2 ∧
      (b.step trio).marks = b.marks ++ (b.tally.record result).1.toList := by
  unfold step
  dsimp only
  split
  · exact .inl ⟨rfl, rfl, rfl⟩
  · exact .inr ⟨_, rfl, rfl, rfl⟩

-- A batch counts one result for each attempt and prints the progress line of all. Only an attempt that is stopped ends
-- it before.
theorem exists_results_run {b : Batch} (hgoing : b.stopped = false) (trio : Trio) (count : Nat) :
    ∃ results, (if (b.run trio count).stopped then results.length < count else results.length = count) ∧
      (b.run trio count).tally = b.tally.recordAll results ∧
      (b.run trio count).marks = b.marks ++ b.tally.printed results := by
  induction count generalizing b with
  | zero => exact ⟨[], by rw [run, hgoing]; rfl, rfl, (List.append_nil _).symm⟩
  | succ count ih =>
    rw [run]
    rcases b.step_counts trio with ⟨hstopped, htally, hmarks⟩ | ⟨result, hstopped, htally, hmarks⟩
    · rw [if_pos hstopped]
      refine ⟨[], ?_, htally, hmarks.trans (List.append_nil _).symm⟩
      rw [if_pos hstopped]
      exact Nat.zero_lt_succ count
    · rw [hgoing] at hstopped
      obtain ⟨results, hlength, hrun, hprinted⟩ := ih hstopped
      rw [if_neg (by rw [hstopped]; exact nofun)]
      refine ⟨result :: results, ?_, ?_, ?_⟩
      · simpa only [List.length_cons, Nat.add_lt_add_iff_right, Nat.add_right_cancel_iff] using hlength
      · rw [hrun, htally, BatchTally.recordAll_cons]
      · rw [hprinted, hmarks, htally, BatchTally.printed_cons, List.append_assoc]

end Batch

end UwbRanging
