import Mathlib.Data.Set.Card
import UwbRanging.Proofs.Exchange.Waiting

namespace UwbRanging

namespace ExchangeTable

open TableEvent

variable (ops : List TableOp) (id : BlinkId)

-- The exchanges in flight are those that were opened and not closed since.
theorem isLive_run_iff : (run {} ops).isLive id = true ↔ Live id (trace {} ops) := by
  rw [← mem_ids_iff, run_eq_replay]
  exact mem_ids_replay {} id _ List.not_mem_nil

theorem nodup_ids_run : (run {} ops).ids.Nodup := by
  rw [run_eq_replay]
  exact nodup_ids_replay {} _ List.nodup_nil

theorem size_run : (run {} ops).size = {id | Live id (trace {} ops)}.ncard := by
  have hset : {id | Live id (trace {} ops)} = ((run {} ops).ids.toFinset : Set BlinkId) := by
    ext id
    rw [Set.mem_ofPred_eq, ← isLive_run_iff, ← mem_ids_iff, Finset.mem_coe, List.mem_toFinset]
  rw [hset, Set.ncard_coe_finset, List.toFinset_card_of_nodup (nodup_ids_run ops), ids, List.length_map]
  rfl

variable {ops} {id}

-- An exchange that is in flight shows the last record of each device since it was opened.
theorem find?_run (hcreates : TableOp.creates ops < 2 ^ 64) {x : Exchange} (hx : (run {} ops).find? id = some x) :
    ∃ since, OpenSince id (trace {} ops) since ∧ x.id = id ∧
      (∀ device, x.get? device = lastRecord device (since.filterMap (recordFor id))) ∧
      ∀ r, r ∈ x.reports ↔ lastRecord r.device (since.filterMap (recordFor id)) = some r := by
  obtain ⟨since, hsince⟩ := (isLive_run_iff ops id).mp (by simp [isLive, hx])
  have hopened := hsince.opened_notMem (nodup_openedIds_trace {} hcreates)
  have hfound := find?_replay_openSince {} id hsince hopened
  rw [← run_eq_replay, hx] at hfound
  obtain rfl := Option.some.inj hfound
  have hget : ∀ device, _ = lastRecord device (since.filterMap (recordFor id)) := fun device =>
    (Exchange.get?_reports ⟨id, []⟩ (since.filterMap (recordFor id)) device).trans Option.or_none
  refine ⟨since, hsince, Exchange.id_reports _ _, hget, fun r => ?_⟩
  have hnew : (⟨id, []⟩ : Exchange).Ordered := List.Pairwise.nil
  have hordered := Exchange.ordered_reports hnew (since.filterMap (recordFor id))
  rw [hordered.mem_reports_iff, hget]

-- What is taken or purged is gone for ever.
theorem not_isLive_of_removed {op : TableOp} (hop : op = .take id ∨ op = .purge id) {later : List TableOp}
    (hcreates : TableOp.creates (ops ++ op :: later) < 2 ^ 64) (hopened : opened id ∈ trace {} ops) :
    (run {} (ops ++ op :: later)).isLive id = false := by
  have hunique := nodup_openedIds_trace {} hcreates
  have hclosed : (run {} ops).event op = closed id := by rcases hop with rfl | rfl <;> rfl
  rw [← Bool.not_eq_true, isLive_run_iff]
  rw [trace_append, trace, hclosed] at hunique ⊢
  have hlater := opened_notMem_of_nodup hunique hopened
  exact not_live_of_closed fun h => hlater (List.mem_cons_of_mem _ h)

theorem deliver_of_notMem {t : ExchangeTable} {d : Delivery} (h : d.id ∉ t.ids) : t.deliver d = t := by
  have hsame : ∀ x ∈ t.inflight, (if x.id = d.id then x.report d.record else x) = x := fun x hx =>
    if_neg fun heq => h (List.mem_map.mpr ⟨x, hx, heq⟩)
  unfold deliver report
  rw [List.map_congr_left hsame, List.map_id']

-- A table does what a map of the live blinks does. `t` is the table after some operations, and `trace`
-- tells them.
structure Mirrors (ops : List TableOp) (t : ExchangeTable) (trace : List TableEvent) : Prop where
  -- every id is given out once
  unique : (trace.filterMap openedId).Nodup
  kept : ∀ d, (t.step (.report d)).1 = .reported true ↔ Live d.id trace
  dropped : ∀ d, ¬ Live d.id trace → t.step (.report d) = (.reported false, t)
  -- a report opens no exchange, and touches no other one than its own
  frame : ∀ d, (t.step (.report d)).2.ids = t.ids ∧
    ∀ other, other ≠ d.id → (t.step (.report d)).2.find? other = t.find? other
  taken : ∀ id, (∃ x, (t.step (.take id)).1 = .taken (some x)) ↔ Live id trace
  -- an exchange that is taken shows the last record of each device since it was opened, and no other one
  contents : ∀ id x, (t.step (.take id)).1 = .taken (some x) → ∃ since, OpenSince id trace since ∧ x.id = id ∧
    (∀ device, x.get? device = lastRecord device (since.filterMap (recordFor id))) ∧
    ∀ r, r ∈ x.reports ↔ lastRecord r.device (since.filterMap (recordFor id)) = some r
  -- it is taken or purged once and for all, and what is reported for it later is dropped
  gone : ∀ id, Live id trace → ∀ op, op = .take id ∨ op = .purge id → ∀ later,
    TableOp.creates (ops ++ op :: later) < 2 ^ 64 →
    ((run {} (ops ++ op :: later)).step (.take id)).1 = .taken none ∧
    ∀ record, ((run {} (ops ++ op :: later)).step (.report ⟨id, record⟩)).1 = .reported false
  size : t.size = {id | Live id trace}.ncard
  -- a wait during which nothing is removed ends well only when all is there that was waited for
  waited : ∀ ids devices events, TableOp.creates (ops ++ events.filterMap WaitEvent.op?) < 2 ^ 64 →
    (∀ op ∈ events.filterMap WaitEvent.op?, op.isRemoval = false) →
    (Waiter.run devices (t, .seeking ids) events).2 = .returned true →
    ∀ id ∈ ids, Live id (ExchangeTable.trace {} (ops ++ events.filterMap WaitEvent.op?)) ∧
      ∃ x, (Waiter.run devices (t, .seeking ids) events).1.find? id = some x ∧
        ∀ device ∈ devices, (x.get? device).isSome
  -- with nothing else going on, it ends well if all is there
  asked : ∀ ids devices, Waiter.run devices (t, .seeking ids) (List.replicate (2 * ids.length + 1) (.turn true)) =
    (t, .returned (t.isComplete ids devices))

theorem run_mirrors (ops : List TableOp) (hcreates : TableOp.creates ops < 2 ^ 64) :
    Mirrors ops (run {} ops) (trace {} ops) where
  unique := nodup_openedIds_trace {} hcreates
  kept d := by
    rw [← isLive_run_iff]
    exact ⟨TableAnswer.reported.inj, congrArg _⟩
  dropped d hd := by
    have hdead : (run {} ops).isLive d.id = false := by rwa [← Bool.not_eq_true, isLive_run_iff]
    have hmem : d.id ∉ (run {} ops).ids := by simp [mem_ids_iff, hdead]
    rw [step, deliver_of_notMem hmem, hdead]
  frame d := by
    refine ⟨ids_deliver _ d, fun other hne => ?_⟩
    rw [step, deliver, find?_report]
    simp [Ne.symm hne]
  taken id := by
    rw [← isLive_run_iff, isLive, Option.isSome_iff_exists, step_take_eq]
    simp only [TableAnswer.taken.injEq]
  contents id x hx := find?_run hcreates (TableAnswer.taken.inj hx)
  gone id hlive op hop later hlater := answers_of_not_isLive (not_isLive_of_removed hop hlater hlive.opened_mem)
  size := size_run ops
  waited ids devices events hcount hkept hreturned id hid := by
    rw [creates_append] at hcount
    have hstart : (Waiter.seeking ids).Progress (run {} ops) ids devices := ⟨[], rfl, rfl⟩
    have hfresh : (run {} ops).FreshFor (TableOp.creates (events.filterMap WaitEvent.op?) + 1) :=
      freshFor_run_new (by omega)
    obtain ⟨hprogress, htable⟩ := Waiter.progress_run hstart hkept (by omega) hfresh
    rw [hreturned] at hprogress
    obtain ⟨x, hx, hcomplete⟩ := isComplete_iff.mp (hprogress rfl) id hid
    refine ⟨?_, x, hx, List.all_eq_true.mp hcomplete⟩
    rw [← isLive_run_iff, run_append, ← htable, isLive, hx]
    rfl
  asked ids devices := Waiter.run_expired _ ids devices

-- A device reports twice on the first exchange, and the second one is taken before its report comes.
theorem run_mirrors_lateReport :
    let twice : List TableOp := [.report ⟨1, ⟨⟨7⟩, none, {}⟩⟩, .report ⟨1, ⟨⟨7⟩, some ⟨8⟩, {}⟩⟩]
    let ops : List TableOp := .create :: .create :: twice ++ [.take 2, .report ⟨2, ⟨⟨7⟩, none, {}⟩⟩]
    TableOp.creates ops < 2 ^ 64 ∧ Mirrors ops (run {} ops) (trace {} ops) := by
  intro twice ops
  have hcreates : TableOp.creates ops < 2 ^ 64 := by decide
  exact ⟨hcreates, run_mirrors ops hcreates⟩

end ExchangeTable

end UwbRanging
