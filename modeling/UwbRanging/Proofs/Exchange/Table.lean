import UwbRanging.Exchange.Table

namespace UwbRanging

namespace Exchange

-- A record that is put in its place is the one found for its device, and hides no other one. This
-- needs no order of the reports that are there.
theorem find?_insert (record : TimestampRecord) (device : Eui64) (reports : List TimestampRecord) :
    (insert record reports).find? (fun r => r.device == device) =
      if record.device = device then some record else reports.find? fun r => r.device == device := by
  induction reports with
  | nil => by_cases hdevice : record.device = device <;> simp [insert, hdevice]
  | cons r rest ih =>
    unfold insert
    by_cases hbefore : record.device.value < r.device.value
    · rw [if_pos hbefore]
      by_cases hdevice : record.device = device <;> simp [hdevice]
    rw [if_neg hbefore]
    by_cases hsame : record.device = r.device
    · rw [if_pos hsame]
      by_cases hdevice : record.device = device
      · simp [hdevice]
      · have hother : ¬ r.device = device := by rwa [← hsame]
        simp [hdevice, hother]
    · rw [if_neg hsame]
      by_cases hr : r.device = device
      · have hother : ¬ record.device = device := by rwa [← hr]
        simp [hr, hother]
      · simp [hr, ih]

theorem insert_ne_nil (record : TimestampRecord) (reports : List TimestampRecord) : insert record reports ≠ [] := by
  cases reports with
  | nil => simp [insert]
  | cons r rest =>
    unfold insert
    split
    · simp
    · split <;> simp

variable (x : Exchange) (record : TimestampRecord) (records : List TimestampRecord)

theorem get?_report (device : Eui64) :
    (x.report record).get? device = if record.device = device then some record else x.get? device :=
  find?_insert record device x.reports

theorem isEmpty_report : (x.report record).isEmpty = false := by
  simp [isEmpty, report, insert_ne_nil]

-- After several reports the last one of a device is found for it.
theorem get?_reports (device : Eui64) : (records.foldl report x).get? device =
    (records.filter fun r => r.device == device).getLast?.or (x.get? device) := by
  induction records generalizing x with
  | nil => simp
  | cons record rest ih =>
    rw [List.foldl_cons, ih, get?_report]
    by_cases hdevice : record.device = device
    · simp [hdevice, List.getLast?_cons]
    · simp [hdevice]

theorem isEmpty_reports : (records.foldl report x).isEmpty = (records.isEmpty && x.isEmpty) := by
  induction records generalizing x with
  | nil => simp
  | cons record rest ih => simp [ih, isEmpty_report]

end Exchange

namespace ExchangeTable

variable (t : ExchangeTable) {id other : BlinkId} (d : Delivery) (ds : List Delivery)

theorem find?_purge_self : (t.purge id).find? id = none := by
  simp [find?, purge]

theorem find?_purge_of_ne (hne : other ≠ id) : (t.purge id).find? other = t.find? other := by
  unfold find? purge
  rw [List.find?_filter]
  congr 1
  funext x
  by_cases hx : x.id = other <;> simp [hx, hne]

theorem find?_report (id other : BlinkId) (record : TimestampRecord) : (t.report id record).find? other =
    (t.find? other).map fun x => if id = other then x.report record else x := by
  have hid (x : Exchange) : (if x.id = id then x.report record else x).id = x.id := by split <;> rfl
  unfold find? report
  rw [List.find?_map]
  have hcomp : ((fun x : Exchange => x.id == other) ∘ fun x => if x.id = id then x.report record else x)
      = fun x => x.id == other := by
    funext x
    rw [Function.comp, hid]
  rw [hcomp]
  cases hfound : t.inflight.find? fun x => x.id == other with
  | none => rfl
  | some x =>
    have hx : x.id = other := by simpa using List.find?_some hfound
    simp [hx, eq_comm]

variable {t} in
-- An exchange that is not in flight does not come back.
theorem find?_eq_none_purge (h : t.find? other = none) : (t.purge id).find? other = none := by
  by_cases hid : other = id
  · rw [hid, find?_purge_self]
  · rw [find?_purge_of_ne t hid, h]

variable {t} in
theorem find?_eq_none_deliverAll (h : t.find? id = none) : (t.deliverAll ds).find? id = none := by
  unfold deliverAll
  induction ds generalizing t with
  | nil => exact h
  | cons d ds ih =>
    apply ih
    rw [deliver, find?_report, h, Option.map_none]

variable {t} in
theorem purge_of_find?_eq_none (h : t.find? id = none) : t.purge id = t := by
  have hkept : t.inflight.filter (fun x => x.id != id) = t.inflight := by
    refine List.filter_eq_self.mpr fun x hx => ?_
    simpa using List.find?_eq_none.mp h x hx
  rw [purge, hkept]

@[simp] theorem next_purge : (t.purge id).next = t.next := rfl

@[simp] theorem next_deliver : (t.deliver d).next = t.next := rfl

@[simp] theorem next_deliverAll : (t.deliverAll ds).next = t.next := by
  unfold deliverAll
  induction ds generalizing t with
  | nil => rfl
  | cons d ds ih => rw [List.foldl_cons, ih, next_deliver]

@[simp] theorem next_purges (ids : List BlinkId) : (ids.foldl purge t).next = t.next := by
  induction ids generalizing t with
  | nil => rfl
  | cons id ids ih => rw [List.foldl_cons, ih, next_purge]

-- Those reports that are filed until the wait is over.
def awaited (t : ExchangeTable) (ids : List BlinkId) (devices : List Eui64) : List Delivery → List Delivery
  | [] => []
  | d :: rest => if t.isComplete ids devices then [] else d :: (t.deliver d).awaited ids devices rest

theorem await_eq_deliverAll (ids : List BlinkId) (devices : List Eui64) :
    t.await ids devices ds = t.deliverAll (t.awaited ids devices ds) := by
  induction ds generalizing t with
  | nil => rfl
  | cons d ds ih =>
    unfold await awaited
    by_cases hcomplete : t.isComplete ids devices = true
    · rw [if_pos hcomplete, if_pos hcomplete]
      rfl
    · rw [if_neg hcomplete, if_neg hcomplete, ih]
      rfl

end ExchangeTable

end UwbRanging
