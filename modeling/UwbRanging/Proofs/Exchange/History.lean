import Mathlib.Algebra.Group.Nat.Defs
import Mathlib.Data.List.Induction
import Mathlib.Data.List.Nodup
import UwbRanging.Exchange.History
import UwbRanging.Proofs.Exchange.Trace

namespace UwbRanging

namespace Exchange

-- The reports stand in the order of their devices, each device once.
def Ordered (x : Exchange) : Prop := x.reports.Pairwise fun a b => a.device.value < b.device.value

theorem mem_insert {record r : TimestampRecord} {reports : List TimestampRecord}
    (hr : r ∈ insert record reports) : r = record ∨ r ∈ reports := by
  induction reports with
  | nil => simpa [insert] using hr
  | cons first rest ih =>
    unfold insert at hr
    split at hr
    · exact List.mem_cons.mp hr
    split at hr
    · exact (List.mem_cons.mp hr).imp_right (List.mem_cons_of_mem _)
    · rcases List.mem_cons.mp hr with rfl | hrest
      · exact .inr List.mem_cons_self
      · exact (ih hrest).imp_right (List.mem_cons_of_mem _)

theorem pairwise_insert (record : TimestampRecord) {reports : List TimestampRecord}
    (hordered : reports.Pairwise fun a b => a.device.value < b.device.value) :
    (insert record reports).Pairwise fun a b => a.device.value < b.device.value := by
  induction reports with
  | nil => simp [insert]
  | cons r rest ih =>
    obtain ⟨hfirst, hrest⟩ := List.pairwise_cons.mp hordered
    unfold insert
    by_cases hbefore : record.device.value < r.device.value
    · rw [if_pos hbefore]
      refine List.pairwise_cons.mpr ⟨fun other hother => ?_, hordered⟩
      rcases List.mem_cons.mp hother with rfl | hother
      · exact hbefore
      · exact UInt64.lt_trans hbefore (hfirst other hother)
    rw [if_neg hbefore]
    by_cases hsame : record.device = r.device
    · rw [if_pos hsame]
      refine List.pairwise_cons.mpr ⟨?_, hrest⟩
      rwa [hsame]
    rw [if_neg hsame]
    refine List.pairwise_cons.mpr ⟨fun other hother => ?_, ih hrest⟩
    rcases mem_insert hother with rfl | hother
    · have hne : r.device.value ≠ other.device.value := fun h => hsame (congrArg Eui64.mk h.symm)
      exact UInt64.lt_of_le_of_ne (UInt64.not_lt.mp hbefore) hne
    · exact hfirst other hother

theorem ordered_reports {x : Exchange} (hx : x.Ordered) (records : List TimestampRecord) :
    (records.foldl report x).Ordered := by
  induction records generalizing x with
  | nil => exact hx
  | cons record rest ih => exact ih (pairwise_insert record hx)

-- No device has two reports, so that the one that is there is the one that is found.
theorem Ordered.mem_reports_iff {x : Exchange} (hx : x.Ordered) (r : TimestampRecord) :
    r ∈ x.reports ↔ x.get? r.device = some r := by
  refine ⟨fun hr => ?_, List.mem_of_find?_eq_some⟩
  obtain ⟨id, reports⟩ := x
  unfold Ordered get? at *
  dsimp only at *
  induction reports with
  | nil => cases hr
  | cons first rest ih =>
    obtain ⟨hfirst, hrest⟩ := List.pairwise_cons.mp hx
    rcases List.mem_cons.mp hr with rfl | hr
    · simp
    · have hne : first.device ≠ r.device := fun h => UInt64.lt_irrefl _ (h ▸ hfirst r hr)
      rw [List.find?_cons_of_neg (by simpa using hne)]
      exact ih hrest hr

@[simp] theorem id_reports (x : Exchange) (records : List TimestampRecord) : (records.foldl report x).id = x.id := by
  induction records generalizing x with
  | nil => rfl
  | cons record rest ih => exact ih (x.report record)

end Exchange

namespace TableEvent

-- The id under which an exchange is opened.
def openedId : TableEvent → Option BlinkId
  | opened id => some id
  | _ => none

-- An exchange is opened, this happens since, and it is not closed.
def OpenSince (id : BlinkId) (trace since : List TableEvent) : Prop :=
  ∃ before, trace = before ++ opened id :: since ∧ closed id ∉ since

-- An exchange is opened and not closed since.
def Live (id : BlinkId) (trace : List TableEvent) : Prop := ∃ since, OpenSince id trace since

variable {id : BlinkId} {trace since : List TableEvent}

theorem mem_filterMap_openedId : id ∈ trace.filterMap openedId ↔ opened id ∈ trace := by
  rw [List.mem_filterMap]
  constructor
  · rintro ⟨event, hevent, hid⟩
    cases event with
    | opened other =>
      cases hid
      exact hevent
    | delivered d => cases hid
    | closed other => cases hid
  · exact fun h => ⟨opened id, h, rfl⟩

theorem Live.opened_mem (h : Live id trace) : opened id ∈ trace := by
  obtain ⟨since, before, rfl, -⟩ := h
  simp

-- An exchange is live by its opening, and stays so until its closing.
theorem live_concat {event : TableEvent} :
    Live id (trace ++ [event]) ↔ event = opened id ∨ (Live id trace ∧ event ≠ closed id) := by
  constructor
  · rintro ⟨since, before, heq, hclosed⟩
    cases since using List.reverseRecOn with
    | nil =>
      obtain ⟨-, hlast⟩ := List.append_inj' heq rfl
      exact .inl (List.singleton_inj.mp hlast)
    | append_singleton since last =>
      rw [← List.cons_append, ← List.append_assoc] at heq
      obtain ⟨htrace, hlast⟩ := List.append_inj' heq rfl
      rw [List.mem_append, not_or] at hclosed
      refine .inr ⟨⟨since, before, htrace, hclosed.1⟩, ?_⟩
      rintro rfl
      exact hclosed.2 (by simpa using hlast)
  · rintro (rfl | ⟨⟨since, before, rfl, hclosed⟩, hevent⟩)
    · exact ⟨[], trace, rfl, by simp⟩
    · refine ⟨since ++ [event], before, by simp, ?_⟩
      simp [hclosed, Ne.symm hevent]

-- What was closed stays so, unless its id is given out again.
theorem not_live_of_closed {before after : List TableEvent} (hafter : opened id ∉ after) :
    ¬ Live id (before ++ closed id :: after) := by
  induction after using List.reverseRecOn with
  | nil => simp [live_concat]
  | append_singleton after event ih =>
    rw [List.mem_append, not_or] at hafter
    rw [← List.cons_append, ← List.append_assoc, live_concat, not_or]
    refine ⟨?_, fun h => ih hafter.1 h.1⟩
    rintro rfl
    exact hafter.2 List.mem_cons_self

-- Where no id is given out twice, the opening of an exchange is the only one under its id.
theorem opened_notMem_of_nodup {before after : List TableEvent}
    (hunique : ((before ++ after).filterMap openedId).Nodup) (hbefore : opened id ∈ before) : opened id ∉ after := by
  intro hafter
  rw [List.filterMap_append, List.nodup_append] at hunique
  exact hunique.2.2 id (mem_filterMap_openedId.mpr hbefore) id (mem_filterMap_openedId.mpr hafter) rfl

theorem OpenSince.opened_notMem (h : OpenSince id trace since) (hunique : (trace.filterMap openedId).Nodup) :
    opened id ∉ since := by
  obtain ⟨before, rfl, -⟩ := h
  rw [← List.singleton_append, ← List.append_assoc] at hunique
  exact opened_notMem_of_nodup hunique (by simp)

end TableEvent

namespace ExchangeTable

open TableEvent

variable (t : ExchangeTable) (id : BlinkId)

theorem mem_ids_iff : id ∈ t.ids ↔ t.isLive id = true := by
  simp [ids, isLive, find?, List.find?_isSome]

@[simp] theorem ids_purge : (t.purge id).ids = t.ids.filter (· != id) := by
  simp only [ids, purge, List.filter_map]
  rfl

@[simp] theorem ids_deliver (d : Delivery) : (t.deliver d).ids = t.ids := by
  simp only [ids, deliver, report, List.map_map]
  congr 1
  funext x
  simp only [Function.comp_apply]
  split <;> rfl

@[simp] theorem ids_apply_opened : (t.apply (.opened id)).ids = t.ids.filter (· != id) ++ [id] := by
  rw [← ids_purge]
  simp [ids, apply]

-- What one event does to the ids in flight.
theorem mem_ids_apply (event : TableEvent) :
    id ∈ (t.apply event).ids ↔ event = opened id ∨ (id ∈ t.ids ∧ event ≠ closed id) := by
  cases event with
  | opened other => by_cases h : other = id <;> simp [h, Ne.symm]
  | delivered d => simp [apply]
  | closed other => by_cases h : other = id <;> simp [h, Ne.symm]

theorem nodup_ids_apply (event : TableEvent) (h : t.ids.Nodup) : (t.apply event).ids.Nodup := by
  cases event with
  | opened id =>
    rw [ids_apply_opened]
    exact List.Nodup.append (h.filter _) (List.nodup_singleton id) (by simp)
  | delivered d => rwa [apply, ids_deliver]
  | closed id => exact ids_purge t id ▸ h.filter _

theorem nodup_ids_replay (trace : List TableEvent) (h : t.ids.Nodup) : (t.replay trace).ids.Nodup := by
  induction trace generalizing t with
  | nil => exact h
  | cons event trace ih => exact ih _ (t.nodup_ids_apply event h)

-- From an empty table on, the exchanges in flight are those that were opened and not closed.
theorem mem_ids_replay (trace : List TableEvent) (hnew : id ∉ t.ids) :
    id ∈ (t.replay trace).ids ↔ Live id trace := by
  induction trace using List.reverseRecOn with
  | nil =>
    refine iff_of_false hnew ?_
    rintro ⟨since, before, heq, -⟩
    simp at heq
  | append_singleton trace event ih =>
    rw [live_concat, replay_append, ← ih]
    exact mem_ids_apply _ id event

-- An exchange that is open holds what was reported for it since it was opened.
theorem find?_replay_openSince {trace since : List TableEvent} (h : OpenSince id trace since)
    (hopened : opened id ∉ since) : (t.replay trace).find? id =
      some ((since.filterMap (recordFor id)).foldl Exchange.report ⟨id, []⟩) := by
  obtain ⟨before, rfl, hclosed⟩ := h
  rw [replay_append, replay_cons]
  exact find?_replay (find?_apply_opened _ id) hopened hclosed

-- What an operation does, told as an event.
def event : TableOp → TableEvent
  | .create => .opened t.create.1
  | .report d => .delivered d
  | .take id => .closed id
  | .purge id => .closed id

-- What a table goes through in some operations.
def trace (t : ExchangeTable) : List TableOp → List TableEvent
  | [] => []
  | op :: rest => t.event op :: (t.step op).2.trace rest

theorem step_eq_apply (op : TableOp) : (t.step op).2 = t.apply (t.event op) := by
  cases op <;> rfl

theorem run_eq_replay (ops : List TableOp) : t.run ops = t.replay (t.trace ops) := by
  induction ops generalizing t with
  | nil => rfl
  | cons op rest ih =>
    rw [trace, replay_cons, ← step_eq_apply, ← ih]
    rfl

theorem run_append (ops later : List TableOp) : t.run (ops ++ later) = (t.run ops).run later := List.foldl_append

theorem trace_append (ops later : List TableOp) :
    t.trace (ops ++ later) = t.trace ops ++ (t.run ops).trace later := by
  induction ops generalizing t with
  | nil => rfl
  | cons op rest ih =>
    rw [List.cons_append, trace, trace, ih]
    rfl

theorem creates_cons (op : TableOp) (rest : List TableOp) :
    TableOp.creates (op :: rest) = TableOp.creates rest + if op.isCreate then 1 else 0 := List.countP_cons

theorem creates_append (ops later : List TableOp) :
    TableOp.creates (ops ++ later) = TableOp.creates ops + TableOp.creates later := List.countP_append

-- Ids that are counted up.
def idsFrom (first : BlinkId) : Nat → List BlinkId
  | 0 => []
  | n + 1 => first :: idsFrom (first + 1) n

@[simp] theorem length_idsFrom (first : BlinkId) (n : Nat) : (idsFrom first n).length = n := by
  induction n generalizing first with
  | zero => rfl
  | succ n ih => simp [idsFrom, ih]

theorem add_ofNat_succ (first : BlinkId) (i : Nat) : first + 1 + UInt64.ofNat i = first + UInt64.ofNat (i + 1) := by
  rw [Nat.add_comm, UInt64.ofNat_add, UInt64.add_assoc]
  rfl

theorem mem_idsFrom {first : BlinkId} {n : Nat} : id ∈ idsFrom first n ↔ ∃ i < n, id = first + UInt64.ofNat i := by
  induction n generalizing first with
  | zero => simp [idsFrom]
  | succ n ih =>
    rw [idsFrom, List.mem_cons, ih]
    simp only [add_ofNat_succ]
    constructor
    · rintro (rfl | ⟨i, hi, rfl⟩)
      · exact ⟨0, Nat.zero_lt_succ n, (UInt64.add_zero id).symm⟩
      · exact ⟨i + 1, Nat.succ_lt_succ hi, rfl⟩
    · rintro ⟨i, hi, rfl⟩
      cases i with
      | zero => exact .inl (UInt64.add_zero first)
      | succ i => exact .inr ⟨i, Nat.lt_of_succ_lt_succ hi, rfl⟩

theorem add_ofNat_inj (first : BlinkId) {i j : Nat} (hi : i < 2 ^ 64) (hj : j < 2 ^ 64)
    (h : first + UInt64.ofNat i = first + UInt64.ofNat j) : i = j := by
  have hval := congrArg UInt64.toNat ((UInt64.add_right_inj first).mp h)
  rwa [UInt64.toNat_ofNat_of_lt' hi, UInt64.toNat_ofNat_of_lt' hj] at hval

-- As long as the count does not come round, no id comes twice.
theorem nodup_idsFrom (first : BlinkId) {n : Nat} (hn : n ≤ 2 ^ 64) : (idsFrom first n).Nodup := by
  induction n generalizing first with
  | zero => exact List.nodup_nil
  | succ n ih =>
    refine List.nodup_cons.mpr ⟨fun hfirst => ?_, ih (first + 1) (by omega)⟩
    obtain ⟨i, hi, hsame⟩ := (mem_idsFrom _).mp hfirst
    rw [add_ofNat_succ] at hsame
    have hzero : first + UInt64.ofNat 0 = first + UInt64.ofNat (i + 1) := (UInt64.add_zero first).trans hsame
    exact absurd (add_ofNat_inj first (by omega) (by omega) hzero) (by omega)

-- Each exchange that is opened gets the next id.
theorem openedIds_trace (ops : List TableOp) :
    (t.trace ops).filterMap openedId = idsFrom t.next (TableOp.creates ops) := by
  induction ops generalizing t with
  | nil => rfl
  | cons op rest ih =>
    rw [trace, creates_cons]
    cases op with
    | create => exact congrArg (t.next :: ·) (ih t.create.2)
    | report d => exact ih _
    | take id => exact ih _
    | purge id => exact ih _

theorem nodup_openedIds_trace {ops : List TableOp} (hcreates : TableOp.creates ops < 2 ^ 64) :
    ((t.trace ops).filterMap openedId).Nodup := by
  rw [openedIds_trace]
  exact nodup_idsFrom t.next (Nat.le_of_lt hcreates)

theorem step_take_eq : (t.step (.take id)).1 = .taken (t.find? id) := rfl

variable {t id} in
-- What is not in flight can neither be taken nor reported on.
theorem answers_of_not_isLive (h : t.isLive id = false) : (t.step (.take id)).1 = .taken none ∧
    ∀ record, (t.step (.report ⟨id, record⟩)).1 = .reported false := by
  refine ⟨?_, fun record => congrArg _ h⟩
  rw [isLive, Option.isSome_eq_false_iff, Option.isNone_iff_eq_none] at h
  rw [step_take_eq, h]

-- The next ids that are given out are not in flight.
def FreshFor (n : Nat) : Prop := ∀ id ∈ idsFrom t.next n, id ∉ t.ids

variable {t}

theorem FreshFor.next_notMem {n : Nat} (h : t.FreshFor n) (hn : 0 < n) : t.next ∉ t.ids :=
  h t.next ((mem_idsFrom t.next).mpr ⟨0, hn, (UInt64.add_zero t.next).symm⟩)

theorem freshFor_step {op : TableOp} {n : Nat} (hn : n + (if op.isCreate then 1 else 0) ≤ 2 ^ 64)
    (h : t.FreshFor (n + if op.isCreate then 1 else 0)) : (t.step op).2.FreshFor n := by
  intro id hid hmem
  rw [step_eq_apply, mem_ids_apply] at hmem
  cases op with
  | create =>
    rcases hmem with hopened | ⟨hold, -⟩
    · obtain rfl : t.next = id := TableEvent.opened.inj hopened
      exact (List.nodup_cons.mp (nodup_idsFrom t.next hn)).1 hid
    · exact h id (List.mem_cons_of_mem _ hid) hold
  | report d => exact h id hid (hmem.resolve_left nofun).1
  | take other => exact h id hid (hmem.resolve_left nofun).1
  | purge other => exact h id hid (hmem.resolve_left nofun).1

theorem freshFor_run {ops : List TableOp} {n : Nat} (hn : TableOp.creates ops + n ≤ 2 ^ 64)
    (h : t.FreshFor (TableOp.creates ops + n)) : (t.run ops).FreshFor n := by
  induction ops generalizing t with
  | nil => exact (Nat.zero_add n) ▸ h
  | cons op rest ih =>
    rw [creates_cons, Nat.add_right_comm] at h hn
    exact ih (by omega) (freshFor_step hn h)

-- A table of which fewer ids were asked for than there are has fresh ones left.
theorem freshFor_run_new {ops : List TableOp} {n : Nat} (hn : TableOp.creates ops + n ≤ 2 ^ 64) :
    (run {} ops).FreshFor n :=
  freshFor_run hn fun _ _ => List.not_mem_nil

end ExchangeTable

end UwbRanging
