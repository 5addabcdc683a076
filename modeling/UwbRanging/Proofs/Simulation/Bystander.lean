import UwbRanging.Proofs.Engine.Bystander
import UwbRanging.Proofs.Simulation.Connecting
import UwbRanging.Proofs.Simulation.Ranging

namespace UwbRanging

-- Reports of one device on one frame differ only in what it has to tell.
theorem TimestampReport.veil_delivery? {r r' : TimestampReport} (hanchor : r'.anchor = r.anchor)
    (hframe : r'.frame = r.frame) :
    r'.delivery?.map (Delivery.veil r.anchor) = r.delivery?.map (Delivery.veil r.anchor) := by
  have hveil (id : BlinkId) (source : Option Eui64) (timestamp : HardwareTimestamp) :
      Delivery.veil r.anchor ⟨id, ⟨r.anchor, source, timestamp⟩⟩ = ⟨id, { device := r.anchor, timestamp := {} }⟩ := by
    rw [Delivery.veil, TimestampRecord.veil, if_pos rfl]
  have hbytes : r'.frameBytes = r.frameBytes := by rw [frameBytes, hframe, frameBytes]
  unfold delivery?
  rw [hbytes, hanchor]
  cases r.frameBytes.toOption with
  | none => rfl
  | some bytes =>
    dsimp only [bind, Option.bind]
    cases (Frame.decode bytes []).toOption with
    | none => rfl
    | some frame =>
      dsimp only
      cases frame.blinkId with
      | none => rfl
      | some id => exact congrArg some ((hveil ..).trans (hveil ..).symm)

-- The same radio elsewhere.
def SimRadio.moved (r : SimRadio) (move : Point → Point) : SimRadio := { r with position := move r.position }

def SimDaemon.moved (d : SimDaemon) (move : Point → Point) : SimDaemon := { d with radio := d.radio.moved move }

namespace Air

-- The same air with the radio of one place elsewhere.
def moved (air : Air) (place : Nat) (move : Point → Point) : Air :=
  { air with daemons := air.daemons.modify place fun d => d.moved move }

variable (air : Air) {place index : Nat} (move : Point → Point) {bystander : Eui64} (t : Float) (draws : List Draws)

theorem length_moved : (air.moved place move).daemons.length = air.daemons.length := List.length_modify ..

theorem veil_report? (sender radio : SimRadio) (frame : List UInt8) (draws : Draws) :
    ((air.report? sender (radio.moved move) frame t draws).bind Message.delivery?).map (Delivery.veil radio.eui) =
      ((air.report? sender radio frame t draws).bind Message.delivery?).map (Delivery.veil radio.eui) := by
  have heui : (radio.moved move).eui = radio.eui := rfl
  have hconfig : (radio.moved move).config = radio.config := rfl
  have hreports (src : Option Eui64) (ts ts' : HardwareTimestamp) :
      (TimestampReport.ofTimestamp radio.eui src ts' frame).delivery?.map (Delivery.veil radio.eui) =
        (TimestampReport.ofTimestamp radio.eui src ts frame).delivery?.map (Delivery.veil radio.eui) :=
    TimestampReport.veil_delivery? (r := .ofTimestamp radio.eui src ts frame) rfl rfl
  unfold report?
  rw [heui, hconfig]
  by_cases hown : radio.eui = sender.eui
  · rw [if_pos hown, if_pos hown]
    exact hreports ..
  · rw [if_neg hown, if_neg hown]
    by_cases hlost : (radio.config.channel != sender.config.channel || air.noise.loses draws) = true
    · rw [if_pos hlost, if_pos hlost]
    · rw [if_neg hlost, if_neg hlost]
      exact hreports ..

theorem map_deliveries_propagate {α : Type} (f : Delivery → α) (sender : SimRadio) (frame : List UInt8) :
    (deliveries (air.propagate sender frame t draws)).map f = air.daemons.zipIdx.filterMap fun p =>
      ((air.report? sender p.1.radio frame t (drawsAt draws p.2)).bind Message.delivery?).map f := by
  rw [deliveries, propagate_eq, List.filterMap_filterMap, List.map_filterMap]
  refine List.filterMap_congr fun p _ => ?_
  rw [reply?]
  cases air.report? sender p.1.radio frame t (drawsAt draws p.2) <;> rfl

variable {air}

-- What is reported of a frame that another radio sends.
theorem veil_propagate (hbystander : air.euis[place]? = some bystander) (sender : SimRadio) (frame : List UInt8) :
    (deliveries ((air.moved place move).propagate sender frame t draws)).map (Delivery.veil bystander) =
      (deliveries (air.propagate sender frame t draws)).map (Delivery.veil bystander) := by
  obtain ⟨hplace, -⟩ := List.getElem?_eq_some_iff.mp hbystander
  obtain ⟨before, d, after, hdaemons, rfl, hmoved⟩ :=
    List.exists_of_modify (fun d : SimDaemon => d.moved move) (hplace.trans_eq (List.length_map _))
  obtain rfl : d.radio.eui = bystander := by
    rw [euis, hdaemons] at hbystander
    simpa using hbystander
  have hreport : (air.moved before.length move).report? = air.report? := rfl
  have hradio : (d.moved move).radio = d.radio.moved move := rfl
  have hdaemons' : (air.moved before.length move).daemons = before ++ d.moved move :: after := hmoved
  rw [map_deliveries_propagate, map_deliveries_propagate, hreport, hdaemons', hdaemons]
  simp only [List.zipIdx_append, List.zipIdx_cons, List.filterMap_append, List.filterMap_cons, hradio, air.veil_report?]

theorem setDaemon_moved (hindex : index ≠ place) (d : SimDaemon) :
    (air.moved place move).setDaemon index d = (air.setDaemon index d).moved place move := by
  rw [setDaemon, setDaemon, moved, moved, List.set_eq_modify, List.modify_modify_ne _ _ _ hindex.symm,
    List.set_eq_modify]

-- A blink that another daemon is asked for.
theorem transmit_moved (hindex : index ≠ place) (hbystander : air.euis[place]? = some bystander) (d : SimDaemon)
    (request : BeaconRequest) :
    (deliveries ((air.moved place move).transmit index d request t draws).1).map (Delivery.veil bystander) =
        (deliveries (air.transmit index d request t draws).1).map (Delivery.veil bystander) ∧
      ((air.moved place move).transmit index d request t draws).2 =
        (air.transmit index d request t draws).2.moved place move := by
  unfold transmit
  cases request.blinkId with
  | error e => exact ⟨rfl, rfl⟩
  | ok id =>
    dsimp only
    rw [setDaemon_moved move hindex]
    cases ((Frame.beacon d.radio.eui (Beacon.forBlink id request.subtype)).encode d.counter).outcome with
    | error e => exact ⟨rfl, rfl⟩
    | ok bytes =>
      refine ⟨veil_propagate move t draws ?_ d.radio bytes, rfl⟩
      rw [← hbystander, euis, euis, List.getElem?_map, List.getElem?_map, setDaemon, List.getElem?_set_ne hindex]

theorem handle_beacon_moved (hindex : index ≠ place) (hbystander : air.euis[place]? = some bystander)
    (request : BeaconRequest) :
    (deliveries ((air.moved place move).handle index (.beacon request) t draws).1).map (Delivery.veil bystander) =
        (deliveries (air.handle index (.beacon request) t draws).1).map (Delivery.veil bystander) ∧
      ((air.moved place move).handle index (.beacon request) t draws).2 =
        (air.handle index (.beacon request) t draws).2.moved place move := by
  have hdaemon : (air.moved place move).daemons[index]? = air.daemons[index]? :=
    List.getElem?_modify_ne _ _ hindex.symm
  unfold handle
  rw [hdaemon]
  cases air.daemons[index]? with
  | none => exact ⟨rfl, rfl⟩
  | some d => exact transmit_moved move t draws hindex hbystander d request

end Air

namespace LiveAir

variable (l : LiveAir) {place index : Nat} (move : Point → Point)

def moved (place : Nat) (move : Point → Point) : LiveAir := { l with air := l.air.moved place move }

theorem wait_moved (nanos : Nat) : (l.moved place move).wait nanos = (l.wait nanos).moved place move := rfl

theorem till_moved (time : Nat) : (l.moved place move).till time = (l.till time).moved place move := rfl

variable {l}

theorem handle_beacon_moved {bystander : Eui64} (hindex : index ≠ place)
    (hbystander : l.air.euis[place]? = some bystander) (request : BeaconRequest) :
    (deliveries ((l.moved place move).handle index (.beacon request)).1).map (Delivery.veil bystander) =
        (deliveries (l.handle index (.beacon request)).1).map (Delivery.veil bystander) ∧
      ((l.moved place move).handle index (.beacon request)).2 =
        (l.handle index (.beacon request)).2.moved place move := by
  obtain ⟨hreports, hair⟩ := Air.handle_beacon_moved move l.arrival l.draws hindex hbystander request
  have hlength : (l.air.moved place move).daemons.length = l.air.daemons.length := l.air.length_moved move
  have hdraws : (l.moved place move).draws = l.draws := by rw [draws, draws, moved, hlength]
  rw [handle, handle, hdraws]
  refine ⟨hreports, ?_⟩
  dsimp only [moved]
  rw [hlength]
  exact congrArg (fun air => ({ l.wait latency with air := air, gen := _ } : LiveAir)) hair

end LiveAir

namespace Batch

section Bystander

variable {e e' : Endpoint Nat} {place : Nat} (move : Point → Point) {bystander : Eui64}

theorem blinkStep_of_known {l : LiveAir} {device : Eui64} {index : Nat} (hknown : e.addressOf device = .ok index)
    (id : BlinkId) : blinkStep (e, l) device id =
      ({ reports := deliveries (l.handle index (.beacon (BeaconRequest.forBlink id))).1, took := LiveAir.latency },
        (e, (l.handle index (.beacon (BeaconRequest.forBlink id))).2)) := by
  rw [blinkStep, hknown]
  dsimp only
  rw [LiveAir.send_encode]
  dsimp only
  rw [deliveries_encode]

-- Asking another device for a blink.
theorem exists_blinkStep_moved {l : LiveAir} {device : Eui64} (haddress : e'.addressOf device = e.addressOf device)
    (hother : e.addressOf device ≠ .ok place) (hbystander : l.air.euis[place]? = some bystander) (id : BlinkId) :
    ∃ step step' l', blinkStep (e, l) device id = (step, (e, l')) ∧
      blinkStep (e', l.moved place move) device id = (step', (e', l'.moved place move)) ∧
      step'.veil bystander = step.veil bystander ∧ l'.air.euis = l.air.euis := by
  cases hknown : e.addressOf device with
  | error error =>
    refine ⟨{ sent := .error error }, { sent := .error error }, l, ?_, ?_, rfl, rfl⟩
    · rw [blinkStep, hknown]
    · rw [blinkStep, haddress, hknown]
  | ok index =>
    have hindex : index ≠ place := by
      rintro rfl
      exact hother hknown
    obtain ⟨hreports, hair⟩ := LiveAir.handle_beacon_moved move hindex hbystander (BeaconRequest.forBlink id)
    have hmoved := blinkStep_of_known (l := l.moved place move) (haddress.trans hknown) id
    rw [hair] at hmoved
    have hveil := congrArg (fun reports => ({ reports := reports, took := LiveAir.latency } : BlinkStep)) hreports
    exact ⟨_, _, _, blinkStep_of_known hknown id, hmoved, hveil, l.euis_handle ..⟩

end Bystander

-- Two batches of which a bystander is elsewhere. Their tables may hold different reports, but go on with the same id.
structure Beside (bystander : Eui64) (place : Nat) (move : Point → Point) (b b' : Batch) : Prop where
  config : b'.config = b.config
  devices : b'.endpoint.devices = b.endpoint.devices
  next : b'.endpoint.table.next = b.endpoint.table.next
  air : b'.air = b.air.moved place move
  timeline : b'.timeline = b.timeline
  tally : b'.tally = b.tally
  marks : b'.marks = b.marks
  stopped : b'.stopped = b.stopped
  -- the host knows every device by a place of it
  known : ∀ device place, b.endpoint.addressOf device = .ok place → b.air.air.euis[place]? = some device
  bystander : b.air.air.euis[place]? = some bystander

namespace Beside

variable {bystander : Eui64} {place : Nat} {move : Point → Point} {b b' : Batch} {trio : Trio}
  (h : Beside bystander place move b b')
include h

theorem addressOf (device : Eui64) : b'.endpoint.addressOf device = b.endpoint.addressOf device :=
  Endpoint.addressOf_congr h.devices device

theorem addressOf_ne {device : Eui64} (hne : device ≠ bystander) : b.endpoint.addressOf device ≠ .ok place :=
  fun hknown => hne (Option.some.inj ((h.known device place hknown).symm.trans h.bystander))

variable (htrio : bystander ∉ trio.devices)
include htrio

theorem exists_script : ∃ clock steps steps' l,
    script b.config trio b.endpoint.table.next b.timeline (b.endpoint, b.air) =
      ({ clock := clock, blinks := steps }, (b.endpoint, l)) ∧
    script b'.config trio b'.endpoint.table.next b'.timeline (b'.endpoint, b'.air) =
      ({ clock := clock, blinks := steps' }, (b'.endpoint, l.moved place move)) ∧
    steps'.map (BlinkStep.veil bystander) = steps.map (BlinkStep.veil bystander) ∧ l.air.euis = b.air.air.euis := by
  have hdut := h.addressOf_ne (List.ne_of_not_mem_cons htrio).symm
  have hreference := h.addressOf_ne (List.ne_of_not_mem_cons (List.not_mem_of_not_mem_cons htrio)).symm
  obtain ⟨s₁, s₁', l₁, hs₁, hs₁', hveil₁, heuis₁⟩ :=
    exists_blinkStep_moved move (h.addressOf _) hdut h.bystander b.endpoint.table.next
  have hveils₁ : [s₁'].map (BlinkStep.veil bystander) = [s₁].map (BlinkStep.veil bystander) :=
    congrArg ([·]) hveil₁
  have hdue₁ := b.config.due_congr hveils₁ ⟨b.timeline, b.air.now⟩
  have hbystander₁ : (l₁.till (b.config.due ⟨b.timeline, b.air.now⟩ [s₁])).air.euis[place]? = some bystander := by
    rw [air_till, heuis₁, h.bystander]
  obtain ⟨s₂, s₂', l₂, hs₂, hs₂', hveil₂, heuis₂⟩ :=
    exists_blinkStep_moved move (h.addressOf _) hreference hbystander₁ (b.endpoint.table.next + 1)
  have hveils₂ : [s₁', s₂'].map (BlinkStep.veil bystander) = [s₁, s₂].map (BlinkStep.veil bystander) := by
    simp only [List.map_cons, hveil₁, hveil₂, List.map_nil]
  have hdue₂ := b.config.due_congr hveils₂ ⟨b.timeline, b.air.now⟩
  have hbystander₂ : (l₂.till (b.config.due ⟨b.timeline, b.air.now⟩ [s₁, s₂])).air.euis[place]? = some bystander := by
    rw [air_till, heuis₂, hbystander₁]
  obtain ⟨s₃, s₃', l₃, hs₃, hs₃', hveil₃, heuis₃⟩ :=
    exists_blinkStep_moved move (h.addressOf _) hdut hbystander₂ (b.endpoint.table.next + 2)
  have heuis : l₃.air.euis = b.air.air.euis := by rw [heuis₃, air_till, heuis₂, air_till, heuis₁]
  refine ⟨_, [s₁, s₂, s₃], [s₁', s₂', s₃'], l₃, script_eq hs₁ hs₂ hs₃, ?_, ?_, heuis⟩
  · rw [h.config, h.next, h.timeline, h.air]
    rw [← hdue₁, ← LiveAir.till_moved] at hs₂'
    rw [← hdue₂, ← LiveAir.till_moved] at hs₃'
    exact script_eq hs₁' hs₂' hs₃'
  · simp only [List.map_cons, hveil₁, hveil₂, hveil₃, List.map_nil]

theorem step : Beside bystander place move (b.step trio) (b'.step trio) := by
  have hfirst : trio.first ≠ bystander := fun heq => htrio (heq ▸ trio.deviceOf_mem_devices .t1)
  have hreference : trio.reference ≠ bystander := fun heq => htrio (heq ▸ trio.deviceOf_mem_devices .t2)
  obtain ⟨clock, steps, steps', l, hscript, hscript', hveil, heuis⟩ := h.exists_script htrio
  -- the tables need not agree: an attempt sees only what is filed while its own exchanges are open
  obtain ⟨hresult, hstate, hnext, hclock⟩ :=
    Attempt.perform_ofSteps_congr trio clock b.config h.next hveil hfirst hreference
  have hair (nanos : Nat) : (if (b.config.perform b.endpoint.table trio { clock := clock, blinks := steps }).state =
      .timedOut then l.wait nanos else l).air.euis = b.air.air.euis := by
    split <;> exact heuis
  unfold Batch.step
  rw [hscript, hscript', h.config]
  dsimp only
  rw [hresult, hstate, hclock, h.tally, h.marks]
  split
  · exact {
      config := rfl
      devices := h.devices
      next := hnext
      air := rfl
      timeline := rfl
      tally := rfl
      marks := rfl
      stopped := rfl
      known := fun device place hknown => by
        rw [heuis]
        exact h.known device place ((Endpoint.addressOf_congr rfl device).trans hknown)
      bystander := by rw [heuis, h.bystander] }
  · exact {
      config := rfl
      devices := h.devices
      next := hnext
      air := by
        split
        · exact l.wait_moved move _
        · rfl
      timeline := rfl
      tally := rfl
      marks := rfl
      stopped := h.stopped
      known := fun device place hknown => by
        rw [hair]
        exact h.known device place ((Endpoint.addressOf_congr rfl device).trans hknown)
      bystander := by rw [hair, h.bystander] }

theorem run (count : Nat) : Beside bystander place move (b.run trio count) (b'.run trio count) := by
  induction count generalizing b b' with
  | zero => exact h
  | succ count ih =>
    have hstep := h.step htrio
    rw [Batch.run, Batch.run, hstep.stopped]
    split
    · exact hstep
    · exact ih hstep

end Beside

end Batch

end UwbRanging
