import UwbRanging.Proofs.Engine.Trace
import UwbRanging.Proofs.Exchange.Refinement

namespace UwbRanging

namespace TableEvent

variable {id : BlinkId} {trace after : List TableEvent}

-- An exchange is open after two runs of events if the second one leaves it so, or does not close it.
theorem live_append : Live id (trace ++ after) ↔ Live id after ∨ (Live id trace ∧ closed id ∉ after) := by
  induction after using List.reverseRecOn with
  | nil =>
    have hnil : ¬ Live id [] := fun h => List.not_mem_nil h.opened_mem
    simp [hnil]
  | append_singleton after event ih =>
    rw [← List.append_assoc, live_concat, live_concat, ih, List.mem_append, List.mem_singleton, eq_comm (b := event)]
    tauto

-- The events that open or close an exchange.
def moves (trace : List TableEvent) : List TableEvent := trace.filter fun event => event matches opened _ | closed _

theorem openedIds_eq_nil (h : ∀ id, opened id ∉ trace) : trace.filterMap openedId = [] :=
  List.eq_nil_iff_forall_not_mem.mpr fun id hid => h id (mem_filterMap_openedId.mp hid)

theorem opened_mem_moves : opened id ∈ moves trace ↔ opened id ∈ trace := by simp [moves]

theorem closed_mem_moves : closed id ∈ moves trace ↔ closed id ∈ trace := by simp [moves]

theorem openedIds_moves : (moves trace).filterMap openedId = trace.filterMap openedId := by
  induction trace with
  | nil => rfl
  | cons event trace ih =>
    cases event with
    | opened id => exact congrArg (id :: ·) ih
    | delivered d => exact ih
    | closed id => exact ih

-- Reports neither open nor close an exchange.
theorem live_moves : Live id (moves trace) ↔ Live id trace := by
  induction trace using List.reverseRecOn with
  | nil => rfl
  | append_singleton trace event ih =>
    unfold moves at *
    rw [List.filter_append]
    cases event with
    | delivered d => simp [live_concat, ih]
    | _ => simp only [List.filter_cons, List.filter_nil, if_true, live_concat, ih]

end TableEvent

namespace ExchangeTable

open TableEvent

-- A table is what it was before these events, up to reports on the exchanges that were in flight.
structure Restored (t : ExchangeTable) (trace : List TableEvent) (t' : ExchangeTable) : Prop where
  ids : t'.ids.Perm t.ids
  kept : ∀ id x, t.find? id = some x →
    t'.find? id = some ((trace.filterMap (recordFor id)).foldl Exchange.report x)
  -- an exchange that was opened meanwhile is gone for as long as the ids do not come round
  gone : ∀ id, opened id ∈ trace → ∀ later,
    (trace.filterMap openedId).length + TableOp.creates later < 2 ^ 64 →
      ((t'.run later).step (.take id)).1 = .taken none ∧
      ∀ record, ((t'.run later).step (.report ⟨id, record⟩)).1 = .reported false

variable {t : ExchangeTable} {trace : List TableEvent} {n : Nat}

theorem next_replay (hids : trace.filterMap openedId = idsFrom t.next n) :
    (t.replay trace).next = t.next + UInt64.ofNat n := by
  induction trace generalizing t n with
  | nil =>
    cases n with
    | zero => exact (UInt64.add_zero t.next).symm
    | succ n => cases hids
  | cons event trace ih =>
    cases event with
    | opened id =>
      rw [List.filterMap_cons_some (f := openedId) (b := id) rfl] at hids
      cases n with
      | zero => cases hids
      | succ n =>
        obtain ⟨rfl, hrest⟩ := List.cons.inj hids
        exact (ih hrest).trans (add_ofNat_succ t.next n)
    | delivered d => exact ih hids
    | closed id => exact ih hids

-- Events that open fresh exchanges only, close these only, and leave none of them open.
theorem restored_replay (hnodup : t.ids.Nodup) (hfresh : t.FreshFor n)
    (hids : trace.filterMap openedId = idsFrom t.next n) (hlive : ∀ id, ¬ Live id trace)
    (hclosed : ∀ id, closed id ∈ trace → opened id ∈ trace) : t.Restored trace (t.replay trace) := by
  have hnew : ∀ id, opened id ∈ trace → id ∉ t.ids := fun id hid =>
    hfresh id (hids ▸ mem_filterMap_openedId.mpr hid)
  have hkept : ∀ id x, t.find? id = some x →
      (t.replay trace).find? id = some ((trace.filterMap (recordFor id)).foldl Exchange.report x) := by
    intro id x hx
    have hopened : opened id ∉ trace := fun h => hnew id h (by simp [mem_ids_iff, isLive, hx])
    exact find?_replay hx hopened (mt (hclosed id) hopened)
  have hmem : ∀ id, id ∈ (t.replay trace).ids ↔ id ∈ t.ids := by
    intro id
    by_cases hid : id ∈ t.ids
    · obtain ⟨x, hx⟩ := Option.isSome_iff_exists.mp ((t.mem_ids_iff id).mp hid)
      refine iff_of_true ?_ hid
      rw [mem_ids_iff, isLive, hkept id x hx]
      rfl
    · rw [mem_ids_replay t id trace hid]
      exact iff_of_false (hlive id) hid
  refine ⟨?ids, hkept, ?gone⟩
  case ids => exact (List.perm_ext_iff_of_nodup (nodup_ids_replay t trace hnodup) hnodup).mpr hmem
  case gone =>
    intro id hopened later hcount
    have hdead : id ∉ (t.replay trace).ids := mt (hmem id).mp (hnew id hopened)
    obtain ⟨i, hi, rfl⟩ := (mem_idsFrom _).mp (hids ▸ mem_filterMap_openedId.mpr hopened)
    rw [hids, length_idsFrom] at hcount
    apply answers_of_not_isLive
    rw [← Bool.not_eq_true, ← mem_ids_iff, run_eq_replay, mem_ids_replay _ _ _ hdead]
    intro hagain
    have hmember := mem_filterMap_openedId.mpr hagain.opened_mem
    rw [openedIds_trace, next_replay hids, mem_idsFrom] at hmember
    obtain ⟨j, hj, hsame⟩ := hmember
    rw [UInt64.add_assoc, ← UInt64.ofNat_add] at hsame
    have := add_ofNat_inj t.next (by omega) (by omega) hsame
    omega

end ExchangeTable

namespace BlinkStep

open TableEvent

variable (step : BlinkStep) (id : BlinkId)

theorem openedIds_trace : (step.trace id).filterMap openedId = [id] := by
  have hreports : (step.reports.map delivered).filterMap openedId = [] := openedIds_eq_nil (by simp)
  have hopened : openedId (opened id) = some id := rfl
  rw [trace, List.filterMap_cons_some hopened, List.filterMap_append, hreports]
  cases step.sent <;> rfl

-- The exchange of a request that is refused does not stay open.
theorem not_live_trace {step : BlinkStep} {e : TransportError} (hsent : step.sent = .error e) (first : BlinkId) :
    ¬ Live id (step.trace first) := by
  intro h
  have hopened := mem_filterMap_openedId.mpr h.opened_mem
  rw [openedIds_trace, List.mem_singleton] at hopened
  rw [trace, hsent, ← List.cons_append, live_concat, hopened] at h
  simp at h

end BlinkStep

namespace Issued

open TableEvent

variable {id : BlinkId} (first : BlinkId) (devices : List Eui64) (steps : List BlinkStep)

-- Each request opens an exchange under the next id.
theorem openedIds_trace : (trace first devices steps).filterMap openedId =
    ExchangeTable.idsFrom first (answers devices steps).length := by
  induction devices generalizing first steps with
  | nil => rfl
  | cons device devices ih =>
    rw [trace, answers, List.filterMap_append, BlinkStep.openedIds_trace]
    cases (steps.headD {}).sent with
    | ok _ => exact congrArg (first :: ·) (ih (first + 1) steps.tail)
    | error e => rfl

theorem opened_of_sent (h : id ∈ sentIds first (answers devices steps)) : opened id ∈ trace first devices steps := by
  induction devices generalizing first steps with
  | nil => cases h
  | cons device devices ih =>
    rw [answers] at h
    rw [trace, List.mem_append]
    cases hsent : (steps.headD {}).sent with
    | ok _ =>
      rw [hsent] at h
      rcases List.mem_cons.mp h with rfl | hrest
      · exact .inl List.mem_cons_self
      · exact .inr (ih (first + 1) steps.tail hrest)
    | error e =>
      rw [hsent] at h
      cases h

theorem opened_of_closed (h : closed id ∈ trace first devices steps) : opened id ∈ trace first devices steps := by
  induction devices generalizing first steps with
  | nil => cases h
  | cons device devices ih =>
    rw [trace, List.mem_append] at h ⊢
    rw [BlinkStep.trace] at *
    cases hsent : (steps.headD {}).sent with
    | ok _ =>
      simp only [hsent] at h
      exact .inr (ih (first + 1) steps.tail (by simpa using h))
    | error e =>
      simp only [hsent] at h
      simp_all

-- Only the exchanges whose requests go out stay open.
theorem sent_of_live (h : Live id (trace first devices steps)) : id ∈ sentIds first (answers devices steps) := by
  induction devices generalizing first steps with
  | nil => cases h.opened_mem
  | cons device devices ih =>
    rw [trace, live_append] at h
    rw [answers]
    cases hsent : (steps.headD {}).sent with
    | ok _ =>
      simp only [hsent] at h
      rcases h with hrest | ⟨hblink, -⟩
      · exact List.mem_cons_of_mem _ (ih (first + 1) steps.tail hrest)
      · have hopened := mem_filterMap_openedId.mpr hblink.opened_mem
        rw [BlinkStep.openedIds_trace, List.mem_singleton] at hopened
        exact hopened ▸ List.mem_cons_self
    | error e =>
      simp only [hsent] at h
      rcases h with hnil | ⟨hblink, -⟩
      · cases hnil.opened_mem
      · exact absurd hblink (BlinkStep.not_live_trace id hsent first)

end Issued

section Take

variable {id : BlinkId} {ids : List BlinkId} {script : Script}

theorem opened_notMem_takeTrace : .opened id ∉ takeTrace ids script := by
  unfold takeTrace
  split <;> simp

theorem mem_of_closed_takeTrace (h : .closed id ∈ takeTrace ids script) : id ∈ ids := by
  unfold takeTrace at h
  split at h
  · simpa using h
  · cases h

end Take

namespace Attempt

open TableEvent

variable {id : BlinkId} (table : ExchangeTable) (a : Attempt)

-- How an attempt ends: the exchanges are taken if it comes to that, and none of them stays.
def windUp : List TableEvent :=
  (match (a.issued table).error with
    | some _ => []
    | none => (a.awaited table).map .delivered ++ takeTrace (a.issued table).ids a.script)
  ++ (a.issued table).ids.map .closed

theorem trace_eq : a.trace table = a.script.before.map .delivered ++
    (Issued.trace table.next a.trio.blinkers a.script.blinks ++ a.windUp table) := rfl

theorem opened_notMem_windUp : opened id ∉ a.windUp table := by
  unfold windUp
  cases (a.issued table).error <;> simp [opened_notMem_takeTrace]

theorem closed_mem_windUp : closed id ∈ a.windUp table ↔ id ∈ Issued.sentIds table.next a.answers := by
  obtain ⟨-, hids, -, -⟩ := a.issued_eq table
  rw [← hids]
  unfold windUp
  constructor
  · intro h
    cases herror : (a.issued table).error with
    | some e => simpa [herror] using h
    | none =>
      rw [herror] at h
      have hids : id ∈ (a.issued table).ids ∨ .closed id ∈ takeTrace (a.issued table).ids a.script := by
        simpa [or_comm] using h
      exact hids.elim (fun h => h) mem_of_closed_takeTrace
  · exact fun h => List.mem_append_right _ (List.mem_map.mpr ⟨id, h, rfl⟩)

theorem openedIds_trace : (a.trace table).filterMap openedId = ExchangeTable.idsFrom table.next a.answers.length := by
  have hbefore : (a.script.before.map delivered).filterMap openedId = [] := openedIds_eq_nil (by simp)
  have hend : (a.windUp table).filterMap openedId = [] := openedIds_eq_nil fun id => a.opened_notMem_windUp table
  rw [trace_eq, List.filterMap_append, List.filterMap_append, hbefore, hend, Issued.openedIds_trace]
  exact List.append_nil _

-- No exchange of an attempt stays open, whatever becomes of it.
theorem not_live_trace : ¬ Live id (a.trace table) := by
  rw [trace_eq, live_append, live_append]
  rintro ((hend | ⟨hissued, hopen⟩) | ⟨hbefore, -⟩)
  · exact a.opened_notMem_windUp table hend.opened_mem
  · exact hopen ((a.closed_mem_windUp table).mpr (Issued.sent_of_live _ _ _ hissued))
  · simpa using hbefore.opened_mem

theorem opened_of_closed (h : closed id ∈ a.trace table) : opened id ∈ a.trace table := by
  rw [trace_eq, List.mem_append, List.mem_append] at h
  rw [trace_eq]
  refine List.mem_append_right _ (List.mem_append_left _ ?_)
  rcases h with hbefore | hissued | hend
  · simp at hbefore
  · exact Issued.opened_of_closed _ _ _ hissued
  · exact Issued.opened_of_sent _ _ _ ((a.closed_mem_windUp table).mp hend)

end Attempt

-- The id of a blink that was asked for.
def EngineEvent.blinkId : EngineEvent → Option BlinkId
  | blink id _ _ => some id
  | report _ _ _ => none

namespace Issued

open EngineEvent

theorem blinkIds_file (s : Issued) (ds : List Delivery) :
    (ds.foldl file s).events.filterMap blinkId = s.events.filterMap blinkId := by
  induction ds generalizing s with
  | nil => rfl
  | cons d ds ih =>
    refine (ih (s.file d)).trans ?_
    rw [file, List.filterMap_append]
    exact List.append_nil _

theorem blinkIds_blink (s : Issued) (device : Eui64) (step : BlinkStep) :
    (s.blink device step).events.filterMap blinkId = s.events.filterMap blinkId ++ [s.table.next] := by
  have hrequest : (s.request device step.sent).events.filterMap blinkId = s.events.filterMap blinkId ++ [s.table.next] :=
    List.filterMap_append
  have hfiled := (blinkIds_file (s.request device step.sent) step.reports).trans hrequest
  unfold blink
  dsimp only
  split <;> exact hfiled

-- The engine's own account names the ids that it opens.
theorem blinkIds_blinkAll {s : Issued} (hfresh : s.error = none) (devices : List Eui64) (steps : List BlinkStep) :
    (s.blinkAll devices steps).events.filterMap blinkId =
      s.events.filterMap blinkId ++ ExchangeTable.idsFrom s.table.next (answers devices steps).length := by
  induction devices generalizing s steps with
  | nil => exact (List.append_nil _).symm
  | cons device devices ih =>
    have hblink := blinkIds_blink s device (steps.headD {})
    unfold blinkAll answers
    cases hsent : (steps.headD {}).sent with
    | ok _ =>
      obtain ⟨htable, -, herror⟩ := blink_of_ok s device hsent
      have hnext := next_replay_blink s.table (steps.headD {})
      rw [← htable] at hnext
      rw [hfresh] at herror
      simp only [herror, Option.isSome_none, Bool.false_eq_true, if_false]
      rw [ih herror, hblink, hnext, List.append_assoc]
      rfl
    | error e =>
      obtain ⟨-, -, herror⟩ := blink_of_error s device hsent
      simp only [herror, Option.isSome_some, if_true]
      exact hblink

end Issued

namespace Attempt

open TableEvent

variable (table : ExchangeTable) (a : Attempt)

theorem perform_events (config : RangingConfig) :
    (config.perform table a.trio a.script).events = (a.issued table).events := rfl

theorem blinkIds_perform (config : RangingConfig) :
    (config.perform table a.trio a.script).events.filterMap EngineEvent.blinkId =
      (a.trace table).filterMap openedId := by
  rw [perform_events, openedIds_trace, issued, Issued.blinkIds_blinkAll rfl]
  simp only [ExchangeTable.next_deliverAll]
  rfl

-- However reports fall among the moves of an attempt, it leaves the table as it was.
theorem restored_of_moves_eq {table : ExchangeTable} {a : Attempt} (hnodup : table.ids.Nodup)
    (hfresh : table.FreshFor a.answers.length) {trace : List TableEvent}
    (hmoves : moves trace = moves (a.trace table)) :
    table.Restored trace (table.replay trace) := by
  have hids : trace.filterMap openedId = ExchangeTable.idsFrom table.next a.answers.length := by
    rw [← openedIds_moves, hmoves, openedIds_moves, openedIds_trace]
  apply ExchangeTable.restored_replay hnodup hfresh hids
  · intro id
    rw [← live_moves, hmoves, live_moves]
    exact a.not_live_trace table
  · intro id hclosed
    rw [← closed_mem_moves, hmoves, closed_mem_moves] at hclosed
    rw [← opened_mem_moves, hmoves, opened_mem_moves]
    exact a.opened_of_closed table hclosed

end Attempt

-- An attempt leaves no exchange behind, and touches none of others. On every path the same exchanges are in
-- flight afterwards as before, they hold in addition what was reported for them, and those that the attempt
-- opened are gone. So it is wherever reports come in between.
theorem RangingConfig.perform_restores (config : RangingConfig) (a : Attempt) (ops : List TableOp)
    (hids : TableOp.creates ops + a.answers.length < 2 ^ 64) :
    let table := ExchangeTable.run {} ops
    let run := config.perform table a.trio a.script
    table.Restored (a.trace table) run.table ∧
      run.events.filterMap EngineEvent.blinkId = (a.trace table).filterMap TableEvent.openedId ∧
      ∀ trace, TableEvent.moves trace = TableEvent.moves (a.trace table) →
        table.Restored trace (table.replay trace) := by
  intro table run
  have hfresh : table.FreshFor a.answers.length := ExchangeTable.freshFor_run_new (Nat.le_of_lt hids)
  have hrestored : ∀ trace, TableEvent.moves trace = TableEvent.moves (a.trace table) →
      table.Restored trace (table.replay trace) :=
    fun trace => Attempt.restored_of_moves_eq (ExchangeTable.nodup_ids_run ops) hfresh
  refine ⟨?_, a.blinkIds_perform table config, hrestored⟩
  rw [show run.table = table.replay (a.trace table) from a.perform_table table config]
  exact hrestored _ rfl

-- The second request is refused. Reports on an older exchange, on those of the attempt and on an unknown one
-- come in between.
theorem RangingConfig.perform_restores_refused :
    let ops : List TableOp := [.create, .report ⟨1, ⟨⟨9⟩, none, {}⟩⟩]
    let a : Attempt := ⟨{ dut := ⟨1⟩, reference := ⟨2⟩ }, {
      before := [⟨2, ⟨⟨1⟩, none, {}⟩⟩]
      blinks := [{ reports := [⟨1, ⟨⟨9⟩, some ⟨1⟩, {}⟩⟩, ⟨2, ⟨⟨1⟩, none, {}⟩⟩] },
        { sent := .error (.unknownDevice ⟨2⟩), reports := [⟨3, ⟨⟨2⟩, none, {}⟩⟩, ⟨7, ⟨⟨2⟩, none, {}⟩⟩] }] }⟩
    let table := ExchangeTable.run {} ops
    let run := RangingConfig.perform {} table a.trio a.script
    TableOp.creates ops + a.answers.length < 2 ^ 64 ∧ table.Restored (a.trace table) run.table ∧
      run.events.filterMap EngineEvent.blinkId = (a.trace table).filterMap TableEvent.openedId ∧
      ∀ trace, TableEvent.moves trace = TableEvent.moves (a.trace table) →
        table.Restored trace (table.replay trace) := by
  intro ops a table run
  have hids : TableOp.creates ops + a.answers.length < 2 ^ 64 := by decide
  exact ⟨hids, RangingConfig.perform_restores {} a ops hids⟩

end UwbRanging
