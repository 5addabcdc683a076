import UwbRanging.Proofs.Exchange.Table

namespace UwbRanging

-- What can happen to a table of exchanges.
inductive TableEvent where
  | opened (id : BlinkId)
  | delivered (d : Delivery)
  | closed (id : BlinkId)
  deriving DecidableEq, Repr

namespace ExchangeTable

def apply (t : ExchangeTable) : TableEvent → ExchangeTable
  | .opened id => ⟨id + 1, (t.purge id).inflight ++ [⟨id, []⟩]⟩
  | .delivered d => t.deliver d
  | .closed id => t.purge id

def replay (t : ExchangeTable) (trace : List TableEvent) : ExchangeTable := trace.foldl apply t

variable (t : ExchangeTable) (ds : List Delivery)

@[simp] theorem replay_cons (event : TableEvent) (trace : List TableEvent) :
    t.replay (event :: trace) = (t.apply event).replay trace := rfl

@[simp] theorem replay_append (trace trace' : List TableEvent) :
    t.replay (trace ++ trace') = (t.replay trace).replay trace' := List.foldl_append

@[simp] theorem replay_delivered : t.replay (ds.map .delivered) = t.deliverAll ds := by
  unfold replay
  rw [List.foldl_map]
  rfl

@[simp] theorem replay_closed (ids : List BlinkId) : t.replay (ids.map .closed) = ids.foldl purge t := by
  unfold replay
  rw [List.foldl_map]
  rfl

@[simp] theorem apply_closed (id : BlinkId) : t.apply (.closed id) = t.purge id := rfl

end ExchangeTable

namespace TableEvent

-- The record that an event files for an exchange.
def recordFor (id : BlinkId) : TableEvent → Option TimestampRecord
  | delivered d => if d.id = id then some d.record else none
  | _ => none

-- The records that a trace files for an exchange before it is closed.
def untilClosed (id : BlinkId) (trace : List TableEvent) : List TimestampRecord :=
  (trace.takeWhile (· ≠ closed id)).filterMap (recordFor id)

-- The records that a trace files for an exchange between its opening and its closing.
def window (id : BlinkId) (trace : List TableEvent) : List TimestampRecord :=
  untilClosed id (trace.dropWhile (· ≠ opened id))

-- The last of these records that is of this device.
def lastRecord (device : Eui64) (records : List TimestampRecord) : Option TimestampRecord :=
  (records.filter fun r => r.device == device).getLast?

theorem window_eq {id : BlinkId} {before during : List TableEvent} (after : List TableEvent)
    (hbefore : opened id ∉ before) (hduring : closed id ∉ during) :
    window id (before ++ opened id :: (during ++ closed id :: after)) = during.filterMap (recordFor id) := by
  have hdrop : (before ++ opened id :: (during ++ closed id :: after)).dropWhile (· ≠ opened id) =
      opened id :: (during ++ closed id :: after) := by
    rw [List.dropWhile_append_of_pos]
    · simp
    · intro event hevent
      simp only [ne_eq, decide_not, Bool.not_eq_eq_eq_not, Bool.not_true, decide_eq_false_iff_not]
      rintro rfl
      exact hbefore hevent
  have htake : (during ++ closed id :: after).takeWhile (· ≠ closed id) = during := by
    rw [List.takeWhile_append_of_pos]
    · simp
    · intro event hevent
      simp only [ne_eq, decide_not, Bool.not_eq_eq_eq_not, Bool.not_true, decide_eq_false_iff_not]
      rintro rfl
      exact hduring hevent
  unfold window untilClosed
  rw [hdrop, List.takeWhile_cons_of_pos (by simp), htake, List.filterMap_cons_none rfl]

-- Two traces tell the same of an exchange to an engine that asks for the records of two devices.
structure SameEvidence (p q : Eui64) (id : BlinkId) (trace trace' : List TableEvent) : Prop where
  first : lastRecord p (window id trace) = lastRecord p (window id trace')
  second : lastRecord q (window id trace) = lastRecord q (window id trace')
  silence : window id trace = [] ↔ window id trace' = []

-- Two traces differ in the order of reports, but not of those that one device makes on one exchange, and
-- in reports on other exchanges than these.
inductive Rearranged (own : BlinkId → Prop) : List TableEvent → List TableEvent → Prop where
  | refl (trace : List TableEvent) : Rearranged own trace trace
  | swap (d d' : Delivery) (trace : List TableEvent) (hne : d.id ≠ d'.id ∨ d.record.device ≠ d'.record.device) :
      Rearranged own (delivered d :: delivered d' :: trace) (delivered d' :: delivered d :: trace)
  | add (d : Delivery) (trace : List TableEvent) (hother : ¬ own d.id) : Rearranged own trace (delivered d :: trace)
  | cons (event : TableEvent) {trace trace' : List TableEvent} :
      Rearranged own trace trace' → Rearranged own (event :: trace) (event :: trace')
  | symm {trace trace' : List TableEvent} : Rearranged own trace trace' → Rearranged own trace' trace
  | trans {trace trace' trace'' : List TableEvent} :
      Rearranged own trace trace' → Rearranged own trace' trace'' → Rearranged own trace trace''

section Rearranged

variable {own : BlinkId → Prop} {id : BlinkId} {trace trace' : List TableEvent}

theorem untilClosed_opened (other : BlinkId) (trace : List TableEvent) :
    untilClosed id (opened other :: trace) = untilClosed id trace := by
  unfold untilClosed
  rw [List.takeWhile_cons_of_pos (by simp), List.filterMap_cons_none rfl]

theorem untilClosed_delivered (d : Delivery) (trace : List TableEvent) : untilClosed id (delivered d :: trace) =
    if d.id = id then d.record :: untilClosed id trace else untilClosed id trace := by
  unfold untilClosed
  rw [List.takeWhile_cons_of_pos (by simp)]
  by_cases hid : d.id = id <;> simp [recordFor, hid]

theorem untilClosed_closed (other : BlinkId) (trace : List TableEvent) :
    untilClosed id (closed other :: trace) = if other = id then [] else untilClosed id trace := by
  unfold untilClosed
  by_cases hid : other = id
  · simp [hid]
  · rw [List.takeWhile_cons_of_pos (by simpa using hid), List.filterMap_cons_none rfl, if_neg hid]

theorem untilClosed_cons_congr (event : TableEvent) {device : Eui64}
    (h : (untilClosed id trace).filter (·.device == device) = (untilClosed id trace').filter (·.device == device)) :
    (untilClosed id (event :: trace)).filter (·.device == device) =
      (untilClosed id (event :: trace')).filter (·.device == device) := by
  cases event with
  | opened other => rw [untilClosed_opened, untilClosed_opened, h]
  | delivered d =>
    rw [untilClosed_delivered, untilClosed_delivered]
    by_cases hid : d.id = id
    · rw [if_pos hid, if_pos hid, List.filter_cons, List.filter_cons, h]
    · rw [if_neg hid, if_neg hid, h]
  | closed other =>
    rw [untilClosed_closed, untilClosed_closed]
    by_cases hid : other = id
    · rw [if_pos hid, if_pos hid]
    · rw [if_neg hid, if_neg hid, h]

theorem Rearranged.untilClosed_filter (h : Rearranged own trace trace') (hown : own id) (device : Eui64) :
    (untilClosed id trace).filter (·.device == device) = (untilClosed id trace').filter (·.device == device) := by
  induction h with
  | refl => rfl
  | swap d d' trace hne =>
    simp only [untilClosed_delivered]
    by_cases hid : d.id = id
    · by_cases hid' : d'.id = id
      · have hdevice : d.record.device ≠ d'.record.device := by
          rcases hne with hne | hne
          · exact absurd (hid.trans hid'.symm) hne
          · exact hne
        simp only [hid, hid', if_true]
        by_cases hd : d.record.device = device
        · have hd' : ¬ d'.record.device = device := by rwa [← hd, eq_comm]
          simp [hd, hd']
        · by_cases hd' : d'.record.device = device <;> simp [hd, hd']
      · simp only [hid, hid', if_true, if_false]
    · simp only [hid, if_false]
  | add d trace hother =>
    have hid : d.id ≠ id := by
      rintro rfl
      exact hother hown
    rw [untilClosed_delivered, if_neg hid]
  | cons event _ ih => exact untilClosed_cons_congr event ih
  | symm _ ih => exact ih.symm
  | trans _ _ ih ih' => exact ih.trans ih'

theorem window_cons (event : TableEvent) (trace : List TableEvent) : window id (event :: trace) =
    if event = opened id then untilClosed id (event :: trace) else window id trace := by
  unfold window
  by_cases hevent : event = opened id <;> simp [hevent]

-- The records of one device on one exchange stay what they are and in the order in which they are.
theorem Rearranged.window_filter (h : Rearranged own trace trace') (hown : own id) (device : Eui64) :
    (window id trace).filter (·.device == device) = (window id trace').filter (·.device == device) := by
  induction h with
  | refl => rfl
  | swap d d' trace _ => simp [window_cons]
  | add d trace _ => simp [window_cons]
  | cons event h ih =>
    rw [window_cons, window_cons]
    by_cases hevent : event = opened id
    · rw [if_pos hevent, if_pos hevent]
      exact untilClosed_cons_congr event (h.untilClosed_filter hown device)
    · rw [if_neg hevent, if_neg hevent, ih]
  | symm _ ih => exact ih.symm
  | trans _ _ ih ih' => exact ih.trans ih'

theorem eq_nil_iff_filter_device (records : List TimestampRecord) :
    records = [] ↔ ∀ device, records.filter (·.device == device) = [] := by
  constructor
  · rintro rfl device
    rfl
  · intro h
    cases records with
    | nil => rfl
    | cons r rest =>
      have hr := h r.device
      simp at hr

theorem Rearranged.sameEvidence (h : Rearranged own trace trace') (hown : own id) (p q : Eui64) :
    SameEvidence p q id trace trace' := by
  refine ⟨?_, ?_, ?_⟩
  · rw [lastRecord, h.window_filter hown p, lastRecord]
  · rw [lastRecord, h.window_filter hown q, lastRecord]
  · rw [eq_nil_iff_filter_device, eq_nil_iff_filter_device (window id trace')]
    constructor
    · intro hnil device
      rw [← h.window_filter hown, hnil]
    · intro hnil device
      rw [h.window_filter hown, hnil]

end Rearranged

end TableEvent

-- What the engine can see of an exchange is what these records leave, in the order in which they came.
structure Exchange.Shows (x : Exchange) (records : List TimestampRecord) : Prop where
  isEmpty_eq : x.isEmpty = records.isEmpty
  get?_eq : ∀ device, x.get? device = TableEvent.lastRecord device records

namespace ExchangeTable

-- While an exchange is neither opened nor closed, it collects exactly what is filed for it.
theorem find?_replay {t : ExchangeTable} {id : BlinkId} {x : Exchange} {trace : List TableEvent}
    (hfound : t.find? id = some x) (hopened : .opened id ∉ trace) (hclosed : .closed id ∉ trace) :
    (t.replay trace).find? id = some ((trace.filterMap (TableEvent.recordFor id)).foldl Exchange.report x) := by
  induction trace generalizing t x with
  | nil => exact hfound
  | cons event trace ih =>
    simp only [List.mem_cons, not_or] at hopened hclosed
    rw [replay_cons]
    cases event with
    | opened other =>
      have hne : id ≠ other := by
        rintro rfl
        exact hopened.1 rfl
      refine ih ?_ hopened.2 hclosed.2
      have hnew : ([⟨other, []⟩] : List Exchange).find? (fun x => x.id == id) = none := by simp [Ne.symm hne]
      rw [← hfound, ← find?_purge_of_ne t hne]
      simp only [apply, find?, List.find?_append, hnew, Option.or_none]
    | delivered d =>
      have hstep : (t.apply (.delivered d)).find? id = some (if d.id = id then x.report d.record else x) := by
        simp only [apply, deliver, find?_report, hfound, Option.map_some]
      rw [ih hstep hopened.2 hclosed.2]
      by_cases hid : d.id = id <;> simp [TableEvent.recordFor, hid]
    | closed other =>
      have hne : id ≠ other := by
        rintro rfl
        exact hclosed.1 rfl
      refine ih ?_ hopened.2 hclosed.2
      rw [apply, find?_purge_of_ne t hne, hfound]

-- An exchange starts empty, also where an old one of the same id was left.
theorem find?_apply_opened (t : ExchangeTable) (id : BlinkId) :
    (t.apply (.opened id)).find? id = some ⟨id, []⟩ := by
  have hold : (t.purge id).inflight.find? (fun x => x.id == id) = none := t.find?_purge_self
  simp only [apply, find?, List.find?_append, hold, Option.none_or]
  simp

-- An exchange that is taken out of the table shows what was filed since it was opened, and nothing else.
theorem find?_replay_opened (t : ExchangeTable) (id : BlinkId) (before during after : List TableEvent)
    (hbefore : .opened id ∉ before) (hopened : .opened id ∉ during)
    (hclosed : .closed id ∉ during) :
    ∃ x, (t.replay (before ++ .opened id :: during)).find? id = some x ∧
      x.Shows (TableEvent.window id (before ++ .opened id :: (during ++ .closed id :: after))) := by
  have hfound := find?_replay (find?_apply_opened (t.replay before) id) hopened hclosed
  refine ⟨_, by rw [replay_append, replay_cons, hfound], ?_⟩
  rw [TableEvent.window_eq after hbefore hclosed]
  refine ⟨?_, ?_⟩
  · rw [Exchange.isEmpty_reports]
    exact Bool.and_true _
  · intro device
    rw [Exchange.get?_reports]
    exact Option.or_none

end ExchangeTable

end UwbRanging
