import UwbRanging.Proofs.Engine.Requests

namespace UwbRanging

-- What a report tells those who do not ask for its device: that there was one.
def TimestampRecord.veil (bystander : Eui64) (r : TimestampRecord) : TimestampRecord :=
  if r.device = bystander then { device := bystander, timestamp := {} } else r

def Delivery.veil (bystander : Eui64) (d : Delivery) : Delivery := { d with record := d.record.veil bystander }

def BlinkStep.veil (bystander : Eui64) (step : BlinkStep) : BlinkStep :=
  { step with reports := step.reports.map (Delivery.veil bystander) }

namespace TableEvent

def veil (bystander : Eui64) : TableEvent → TableEvent
  | opened id => opened id
  | delivered d => delivered (d.veil bystander)
  | closed id => closed id

end TableEvent

variable {bystander : Eui64}

@[simp] theorem TimestampRecord.device_veil (r : TimestampRecord) : (r.veil bystander).device = r.device := by
  unfold veil
  by_cases hdevice : r.device = bystander
  · rw [if_pos hdevice, hdevice]
  · rw [if_neg hdevice]

namespace TableEvent

theorem map_veil_delivered (ds : List Delivery) :
    (ds.map delivered).map (veil bystander) = (ds.map (Delivery.veil bystander)).map delivered := by
  rw [List.map_map, List.map_map]
  rfl

-- The records of other devices stay what they are.
theorem lastRecord_veil {device : Eui64} (hne : device ≠ bystander) (records : List TimestampRecord) :
    lastRecord device (records.map (TimestampRecord.veil bystander)) = lastRecord device records := by
  have hsame : (fun r : TimestampRecord => r.device == device) ∘ TimestampRecord.veil bystander =
      fun r => r.device == device := funext fun r => congrArg (· == device) r.device_veil
  have hkept (r : TimestampRecord) (hr : r ∈ records.filter (·.device == device)) : r.veil bystander = r := by
    obtain ⟨-, hdevice⟩ := List.mem_filter.mp hr
    exact if_neg ((eq_of_beq hdevice).trans_ne hne)
  rw [lastRecord, List.filter_map, hsame, List.map_congr_left hkept, List.map_id', lastRecord]

variable {id : BlinkId}

theorem untilClosed_veil (trace : List TableEvent) :
    untilClosed id (trace.map (veil bystander)) = (untilClosed id trace).map (TimestampRecord.veil bystander) := by
  induction trace with
  | nil => rfl
  | cons event trace ih =>
    rw [List.map_cons]
    cases event with
    | opened other => rw [veil, untilClosed_opened, untilClosed_opened, ih]
    | delivered d =>
      have hveiled : (d.veil bystander).id = d.id := rfl
      rw [veil, untilClosed_delivered, untilClosed_delivered, ih, hveiled]
      by_cases hid : d.id = id
      · rw [if_pos hid, if_pos hid, List.map_cons]
        rfl
      · rw [if_neg hid, if_neg hid]
    | closed other =>
      rw [veil, untilClosed_closed, untilClosed_closed, ih]
      by_cases hid : other = id
      · rw [if_pos hid, if_pos hid, List.map_nil]
      · rw [if_neg hid, if_neg hid]

theorem veil_eq_opened_iff (event : TableEvent) : event.veil bystander = opened id ↔ event = opened id := by
  cases event with
  | opened other => exact Iff.rfl
  | delivered d => exact iff_of_false nofun nofun
  | closed other => exact iff_of_false nofun nofun

theorem window_veil (trace : List TableEvent) :
    window id (trace.map (veil bystander)) = (window id trace).map (TimestampRecord.veil bystander) := by
  induction trace with
  | nil => rfl
  | cons event trace ih =>
    rw [List.map_cons, window_cons, window_cons, ih, ← List.map_cons, untilClosed_veil]
    by_cases hopened : event = opened id
    · rw [if_pos ((veil_eq_opened_iff event).mpr hopened), if_pos hopened]
    · rw [if_neg fun h => hopened ((veil_eq_opened_iff event).mp h), if_neg hopened]

-- To an engine that does not ask for the bystander, traces are the same that differ in its records.
theorem sameEvidence_of_veil {p q : Eui64} {trace trace' : List TableEvent}
    (h : trace'.map (veil bystander) = trace.map (veil bystander)) (hp : p ≠ bystander) (hq : q ≠ bystander) :
    SameEvidence p q id trace trace' := by
  have hwindow : (window id trace').map (TimestampRecord.veil bystander) =
      (window id trace).map (TimestampRecord.veil bystander) := by rw [← window_veil, h, window_veil]
  have hlast {device : Eui64} (hne : device ≠ bystander) :
      lastRecord device (window id trace) = lastRecord device (window id trace') := by
    rw [← lastRecord_veil hne, ← hwindow, lastRecord_veil hne]
  refine ⟨hlast hp, hlast hq, ?_⟩
  rw [← List.map_eq_nil_iff (f := TimestampRecord.veil bystander), ← hwindow, List.map_eq_nil_iff]

end TableEvent

namespace Issued

theorem sent_headD_veil (steps : List BlinkStep) :
    ((steps.map (BlinkStep.veil bystander)).headD {}).sent = (steps.headD {}).sent := by cases steps <;> rfl

theorem answers_veil (devices : List Eui64) (steps : List BlinkStep) :
    answers devices (steps.map (BlinkStep.veil bystander)) = answers devices steps := by
  induction devices generalizing steps with
  | nil => rfl
  | cons device devices ih => rw [answers, answers, sent_headD_veil, ← List.map_tail, ih]

theorem trace_veil (id : BlinkId) (devices : List Eui64) (steps : List BlinkStep) :
    trace id devices (steps.map (BlinkStep.veil bystander)) =
      (trace id devices steps).map (TableEvent.veil bystander) := by
  induction devices generalizing id steps with
  | nil => rfl
  | cons device devices ih =>
    have hhead : ((steps.map (BlinkStep.veil bystander)).headD {}).trace id =
        ((steps.headD {}).trace id).map (TableEvent.veil bystander) := by
      have hreports : ((steps.map (BlinkStep.veil bystander)).headD {}).reports =
          (steps.headD {}).reports.map (Delivery.veil bystander) := by cases steps <;> rfl
      rw [BlinkStep.trace, BlinkStep.trace, sent_headD_veil, hreports, List.map_cons, List.map_append,
        TableEvent.map_veil_delivered]
      cases (steps.headD {}).sent <;> rfl
    rw [trace, trace, sent_headD_veil, ← List.map_tail, ih, hhead, List.map_append]
    cases (steps.headD {}).sent <;> rfl

end Issued

namespace RangingConfig

variable (config : RangingConfig) {steps steps' : List BlinkStep}

theorem pauses_veil (steps : List BlinkStep) :
    config.pauses (steps.map (BlinkStep.veil bystander)) = config.pauses steps := by
  have hnap (i delay : Nat) : ((steps.map (BlinkStep.veil bystander)).getD i {}).nap delay =
      (steps.getD i {}).nap delay := by
    rw [List.getD_eq_getElem?_getD, List.getD_eq_getElem?_getD, List.getElem?_map]
    cases steps[i]? <;> rfl
  rw [pauses, pauses, hnap, hnap]

-- What the bystander reports does not show in when the blinks are asked for.
theorem pauses_congr (hsteps : steps'.map (BlinkStep.veil bystander) = steps.map (BlinkStep.veil bystander)) :
    config.pauses steps' = config.pauses steps :=
  calc config.pauses steps'
    _ = config.pauses (steps'.map (BlinkStep.veil bystander)) := (config.pauses_veil steps').symm
    _ = config.pauses (steps.map (BlinkStep.veil bystander)) := by rw [hsteps]
    _ = config.pauses steps := config.pauses_veil steps

theorem due_congr (hsteps : steps'.map (BlinkStep.veil bystander) = steps.map (BlinkStep.veil bystander))
    (start : ClockedTimeline) : config.due start steps' = config.due start steps := by
  have hlength := congrArg List.length hsteps
  rw [List.length_map, List.length_map] at hlength
  rw [due, due, config.pauses_congr hsteps, hlength]

end RangingConfig

namespace Attempt

-- An attempt in which nothing is reported but right after the blinks.
def ofSteps (trio : Trio) (clock : ClockedTimeline) (steps : List BlinkStep) : Attempt :=
  ⟨trio, { clock := clock, blinks := steps }⟩

variable (trio : Trio) (clock : ClockedTimeline) {steps steps' : List BlinkStep}

theorem trace_ofSteps (table : ExchangeTable) (steps : List BlinkStep) : (ofSteps trio clock steps).trace table =
    Issued.trace table.next trio.blinkers steps ++
      ((match Issued.refusal (ofSteps trio clock steps).answers with
        | some _ => []
        | none => takeTrace (Issued.sentIds table.next (ofSteps trio clock steps).answers) {})
      ++ (Issued.sentIds table.next (ofSteps trio clock steps).answers).map .closed) := by
  obtain ⟨-, hids, herror, -⟩ := (ofSteps trio clock steps).issued_eq table
  have hawaited : (ofSteps trio clock steps).awaited table = [] := rfl
  rw [trace, hids, herror, hawaited]
  rfl

-- What the bystander reports comes to nothing but that it may have.
theorem perform_ofSteps_congr (config : RangingConfig) {table table' : ExchangeTable} (hnext : table'.next = table.next)
    (hsteps : steps'.map (BlinkStep.veil bystander) = steps.map (BlinkStep.veil bystander))
    (hfirst : trio.first ≠ bystander) (hreference : trio.reference ≠ bystander) :
    let run := config.perform table trio { clock := clock, blinks := steps }
    let run' := config.perform table' trio { clock := clock, blinks := steps' }
    run'.result = run.result ∧ run'.state = run.state ∧ run'.table.next = run.table.next ∧ run'.clock = run.clock := by
  have hanswers : (ofSteps trio clock steps).answers = (ofSteps trio clock steps').answers :=
    calc Issued.answers trio.blinkers steps
      _ = Issued.answers trio.blinkers (steps.map (BlinkStep.veil bystander)) := (Issued.answers_veil ..).symm
      _ = Issued.answers trio.blinkers (steps'.map (BlinkStep.veil bystander)) := by rw [hsteps]
      _ = Issued.answers trio.blinkers steps' := Issued.answers_veil ..
  have htrace : ((ofSteps trio clock steps').trace table').map (TableEvent.veil bystander) =
      ((ofSteps trio clock steps).trace table).map (TableEvent.veil bystander) := by
    rw [trace_ofSteps, trace_ofSteps, hnext, hanswers]
    simp only [List.map_append, ← Issued.trace_veil, hsteps]
  have hsame : (ofSteps trio clock steps).SameRequests (ofSteps trio clock steps') := ⟨rfl, hanswers⟩
  obtain ⟨hresult, hstate⟩ := perform_congr config hnext.symm hsame fun id _ =>
    TableEvent.sameEvidence_of_veil htrace hfirst hreference
  refine ⟨hresult.symm, hstate.symm, ?_, ?_⟩
  · have hids := (ofSteps trio clock steps).perform_next table config
    have hids' := (ofSteps trio clock steps').perform_next table' config
    rw [← hanswers, hnext] at hids'
    exact hids'.trans hids.symm
  · have hcalls := (ofSteps trio clock steps).length_calls config table
    have hcalls' := (ofSteps trio clock steps').length_calls config table'
    rw [← hanswers, ← hcalls] at hcalls'
    exact congrArg₂ (fun pauses n => clock.run (pauses.take n)) (config.pauses_congr hsteps) hcalls'

end Attempt

end UwbRanging
