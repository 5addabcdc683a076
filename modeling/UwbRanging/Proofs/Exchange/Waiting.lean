import UwbRanging.Exchange.Waiter
import UwbRanging.Proofs.Exchange.History

namespace UwbRanging

namespace ExchangeTable

variable {t : ExchangeTable} {id : BlinkId} {ids : List BlinkId} {devices : List Eui64}

theorem isComplete_iff : t.isComplete ids devices = true ↔
    ∀ id ∈ ids, ∃ x, t.find? id = some x ∧ x.isComplete devices = true := by
  simp [isComplete, Option.any_eq_true]

theorem isComplete_append (more : List BlinkId) : t.isComplete (ids ++ more) devices = true ↔
    t.isComplete ids devices = true ∧ t.isComplete more devices = true := by
  simp [isComplete, List.all_append]

theorem isComplete_report {x : Exchange} (hx : x.isComplete devices = true) (record : TimestampRecord) :
    (x.report record).isComplete devices = true := by
  unfold Exchange.isComplete at *
  rw [List.all_eq_true] at *
  intro device hdevice
  rw [Exchange.get?_report]
  split
  · rfl
  · exact hx device hdevice

theorem find?_create_of_ne (hne : id ≠ t.next) : t.create.2.find? id = t.find? id := by
  rw [← find?_purge_of_ne t hne]
  have hnew : ([⟨t.next, []⟩] : List Exchange).find? (fun x => x.id == id) = none := by simp [Ne.symm hne]
  simp only [create, find?, List.find?_append, hnew, Option.or_none]

-- An exchange that is complete stays so until it is removed.
theorem isComplete_step {op : TableOp} (hop : op.isRemoval = false) (hfresh : t.next ∉ t.ids)
    (h : t.isComplete ids devices = true) : (t.step op).2.isComplete ids devices = true := by
  rw [isComplete_iff] at *
  intro id hid
  obtain ⟨x, hx, hcomplete⟩ := h id hid
  cases op with
  | create =>
    have hlive : id ∈ t.ids := by simp [mem_ids_iff, isLive, hx]
    have hne : id ≠ t.next := fun heq => hfresh (heq ▸ hlive)
    exact ⟨x, (find?_create_of_ne hne).trans hx, hcomplete⟩
  | report d =>
    have hfound : (t.deliver d).find? id = some (if d.id = id then x.report d.record else x) := by
      rw [deliver, find?_report, hx, Option.map_some]
    refine ⟨_, hfound, ?_⟩
    split
    · exact isComplete_report hcomplete d.record
    · exact hcomplete
  | take other => cases hop
  | purge other => cases hop

end ExchangeTable

namespace Waiter

variable {t : ExchangeTable} {ids : List BlinkId} {devices : List Eui64} {w : Waiter}

-- How far a waiter has come if no exchange is removed: those that it has left behind are complete.
def Progress (t : ExchangeTable) (ids : List BlinkId) (devices : List Eui64) : Waiter → Prop
  | seeking rest => ∃ seen, ids = seen ++ rest ∧ t.isComplete seen devices = true
  | holding id removed rest =>
    removed = none ∧ id ∈ t.ids ∧ ∃ seen, ids = seen ++ id :: rest ∧ t.isComplete seen devices = true
  | returned complete => complete = true → t.isComplete ids devices = true

theorem progress_turn (h : w.Progress t ids devices) (expired : Bool) :
    (w.turn t devices expired).Progress t ids devices := by
  cases w with
  | seeking rest =>
    obtain ⟨seen, rfl, hseen⟩ := h
    cases rest with
    | nil => simpa [turn, Progress] using hseen
    | cons id rest =>
      rw [turn]
      by_cases hlive : t.isLive id = true
      · rw [if_pos hlive]
        exact ⟨rfl, (t.mem_ids_iff id).mpr hlive, seen, rfl, hseen⟩
      · rw [if_neg hlive]
        exact nofun
  | holding id removed rest =>
    obtain ⟨rfl, hlive, seen, rfl, hseen⟩ := h
    rw [turn, Option.none_or]
    by_cases hcomplete : (t.find? id).any (·.isComplete devices) = true
    · rw [if_pos hcomplete]
      refine ⟨seen ++ [id], by simp, ?_⟩
      rw [ExchangeTable.isComplete_append]
      exact ⟨hseen, by simpa [ExchangeTable.isComplete] using hcomplete⟩
    rw [if_neg hcomplete]
    by_cases hexpired : expired = true
    · rw [if_pos hexpired]
      exact nofun
    · rw [if_neg hexpired]
      exact ⟨rfl, hlive, seen, rfl, hseen⟩
  | returned complete => exact h

theorem progress_other (h : w.Progress t ids devices) {op : TableOp} (hop : op.isRemoval = false)
    (hfresh : t.next ∉ t.ids) : (w.notice t op).Progress (t.step op).2 ids devices := by
  cases w with
  | seeking rest =>
    obtain ⟨seen, hids, hseen⟩ := h
    exact ⟨seen, hids, ExchangeTable.isComplete_step hop hfresh hseen⟩
  | holding id removed rest =>
    obtain ⟨rfl, hlive, seen, hids, hseen⟩ := h
    have hlinked : t.unlinks id op = false := by
      cases op with
      | create => simpa [ExchangeTable.unlinks] using fun heq : t.next = id => hfresh (heq ▸ hlive)
      | report d => rfl
      | take other => cases hop
      | purge other => cases hop
    have hlive' : id ∈ (t.step op).2.ids := by
      rw [ExchangeTable.step_eq_apply, ExchangeTable.mem_ids_apply]
      refine .inr ⟨hlive, ?_⟩
      cases op with
      | take other => cases hop
      | purge other => cases hop
      | _ => exact nofun
    refine ⟨?_, hlive', seen, hids, ExchangeTable.isComplete_step hop hfresh hseen⟩
    rw [hlinked]
    rfl
  | returned complete => exact fun hcomplete => ExchangeTable.isComplete_step hop hfresh (h hcomplete)

-- A wait in the course of which nothing is removed and the ids do not come round.
theorem progress_run {events : List WaitEvent} (h : w.Progress t ids devices)
    (hkept : ∀ op ∈ events.filterMap WaitEvent.op?, op.isRemoval = false)
    (hcount : TableOp.creates (events.filterMap WaitEvent.op?) + 1 ≤ 2 ^ 64)
    (hfresh : t.FreshFor (TableOp.creates (events.filterMap WaitEvent.op?) + 1)) :
    (run devices (t, w) events).2.Progress (run devices (t, w) events).1 ids devices ∧
      (run devices (t, w) events).1 = t.run (events.filterMap WaitEvent.op?) := by
  induction events generalizing t w with
  | nil => exact ⟨h, rfl⟩
  | cons event events ih =>
    cases event with
    | turn expired => exact ih (progress_turn h expired) hkept hcount hfresh
    | other op =>
      rw [List.filterMap_cons_some (f := WaitEvent.op?) (b := op) rfl] at *
      rw [ExchangeTable.creates_cons, Nat.add_right_comm] at hcount hfresh
      have hnext : t.next ∉ t.ids := hfresh.next_notMem (by omega)
      have hop := hkept op List.mem_cons_self
      have hrest := fun other hother => hkept other (List.mem_cons_of_mem op hother)
      exact ih (progress_other h hop hnext) hrest (by omega) (ExchangeTable.freshFor_step hcount hfresh)

theorem run_returned (t : ExchangeTable) (devices : List Eui64) (complete expired : Bool) (n : Nat) :
    run devices (t, returned complete) (List.replicate n (.turn expired)) = (t, returned complete) := by
  induction n with
  | zero => rfl
  | succ n ih => exact ih

-- With no time left and nothing else going on, a waiter finds out whether all exchanges are complete.
-- Each takes two turns: it is looked up, and it is looked at.
theorem run_expired (t : ExchangeTable) (ids : List BlinkId) (devices : List Eui64) :
    run devices (t, seeking ids) (List.replicate (2 * ids.length + 1) (.turn true)) =
      (t, returned (t.isComplete ids devices)) := by
  induction ids with
  | nil => rfl
  | cons id rest ih =>
    have hsteps : run devices (t, seeking (id :: rest)) (List.replicate (2 * (id :: rest).length + 1) (.turn true)) =
        run devices (t, ((seeking (id :: rest)).turn t devices true).turn t devices true)
          (List.replicate (2 * rest.length + 1) (.turn true)) := rfl
    rw [hsteps, turn]
    cases hfound : t.find? id with
    | none =>
      have hdead : ¬ t.isLive id = true := by simp [ExchangeTable.isLive, hfound]
      have hincomplete : t.isComplete (id :: rest) devices = false := by simp [ExchangeTable.isComplete, hfound]
      rw [if_neg hdead, hincomplete]
      exact run_returned t devices false true _
    | some x =>
      have hlive : t.isLive id = true := by simp [ExchangeTable.isLive, hfound]
      rw [if_pos hlive, turn, Option.none_or, hfound, Option.any_some]
      by_cases hx : x.isComplete devices = true
      · have hcomplete : t.isComplete (id :: rest) devices = t.isComplete rest devices := by
          simp [ExchangeTable.isComplete, hfound, hx]
        rw [if_pos hx, hcomplete]
        exact ih
      · have hincomplete : t.isComplete (id :: rest) devices = false := by
          simp [ExchangeTable.isComplete, hfound, hx]
        rw [if_neg hx, if_pos rfl, hincomplete]
        exact run_returned t devices false true _

theorem run_append (devices : List Eui64) (s : ExchangeTable × Waiter) (events later : List WaitEvent) :
    run devices s (events ++ later) = run devices (run devices s events) later := List.foldl_append

theorem run_reports (t : ExchangeTable) (ids : List BlinkId) (devices : List Eui64) (ds : List Delivery) :
    run devices (t, seeking ids) (ds.map fun d => .other (.report d)) = (t.deliverAll ds, seeking ids) := by
  induction ds generalizing t with
  | nil => rfl
  | cons d ds ih => exact ih (t.deliver d)

-- What the engine waits for is what such a waiter sees when its turn comes after these reports.
theorem run_awaited (t : ExchangeTable) (ids : List BlinkId) (devices : List Eui64) (ds : List Delivery) :
    run devices (t, seeking ids) ((t.awaited ids devices ds).map (fun d => .other (.report d)) ++
        List.replicate (2 * ids.length + 1) (.turn true)) =
      (t.await ids devices ds, returned ((t.await ids devices ds).isComplete ids devices)) := by
  rw [run_append, run_reports, ← ExchangeTable.await_eq_deliverAll, run_expired]

end Waiter

end UwbRanging
