import Mathlib.Algebra.GroupWithZero.Nat
import UwbRanging.Engine.Timeline

namespace UwbRanging

namespace Timeline

variable {anchor now : Nat} {oversleeps : Nat → Nat}

-- What is left to sleep after so many sleeps.
def remaining (anchor now : Nat) (oversleeps : Nat → Nat) (sleeps : Nat) : Nat :=
  anchor - reading anchor now oversleeps sleeps

theorem le_reading (anchor now : Nat) (oversleeps : Nat → Nat) (sleeps : Nat) :
    now ≤ reading anchor now oversleeps sleeps := by
  induction sleeps with
  | zero => exact Nat.le_refl now
  | succ k ih => exact Nat.le_trans ih (Nat.le_add_right _ _)

-- A sleep at least halves what is left, up to a nanosecond.
theorem remaining_succ (anchor now : Nat) (oversleeps : Nat → Nat) (sleeps : Nat) :
    2 * remaining anchor now oversleeps (sleeps + 1) ≤ remaining anchor now oversleeps sleeps + 1 := by
  unfold remaining
  rw [reading]
  omega

theorem pow_mul_remaining_le (anchor now : Nat) (oversleeps : Nat → Nat) (sleeps : Nat) :
    2 ^ sleeps * (remaining anchor now oversleeps sleeps - 1) ≤ anchor - now - 1 := by
  induction sleeps with
  | zero => simp [remaining, reading]
  | succ k ih =>
    have hhalf := remaining_succ anchor now oversleeps k
    have hstep : 2 * (remaining anchor now oversleeps (k + 1) - 1) ≤ remaining anchor now oversleeps k - 1 := by omega
    calc
      2 ^ (k + 1) * (remaining anchor now oversleeps (k + 1) - 1)
          = 2 ^ k * (2 * (remaining anchor now oversleeps (k + 1) - 1)) := by rw [Nat.pow_succ, Nat.mul_assoc]
      _ ≤ 2 ^ k * (remaining anchor now oversleeps k - 1) := Nat.mul_le_mul_left _ hstep
      _ ≤ anchor - now - 1 := ih

-- The sleeps of a nap: there is something left before each of them, and nothing worth another one after the last.
structure Sleeps (anchor now : Nat) (oversleeps : Nat → Nat) (sleeps : Nat) : Prop where
  far : ∀ k < sleeps, sleepMin ≤ remaining anchor now oversleeps k
  near : remaining anchor now oversleeps sleeps < sleepMin

-- From any place on the way the loop goes on to the end of the sleeps.
theorem exists_sleepUntil (t sleeps : Nat) (ht : t = reading anchor now oversleeps sleeps) :
    ∃ last, sleeps ≤ last ∧ sleepUntil anchor t oversleeps sleeps = (reading anchor now oversleeps last, last) ∧
      (∀ k, sleeps ≤ k → k < last → sleepMin ≤ remaining anchor now oversleeps k) ∧
      remaining anchor now oversleeps last < sleepMin := by
  induction t, sleeps using sleepUntil.induct anchor oversleeps with
  | case1 t sleeps hnear =>
    subst ht
    refine ⟨sleeps, Nat.le_refl _, ?_, fun k hlow hhigh => by omega, hnear⟩
    rw [sleepUntil, dif_pos hnear]
  | case2 t sleeps hfar ih =>
    subst ht
    obtain ⟨last, hle, heq, hbetween, hnear⟩ := ih rfl
    refine ⟨last, by omega, ?_, fun k hlow hhigh => ?_, hnear⟩
    · rw [sleepUntil, dif_neg hfar]
      exact heq
    · rcases Nat.eq_or_lt_of_le hlow with rfl | hlater
      · exact Nat.le_of_not_lt hfar
      · exact hbetween k hlater hhigh

-- The loop ends, whatever the clock does.
theorem exists_sleeps (anchor now : Nat) (oversleeps : Nat → Nat) : ∃ sleeps,
    sleepUntil anchor now oversleeps 0 = (reading anchor now oversleeps sleeps, sleeps) ∧
      Sleeps anchor now oversleeps sleeps := by
  have hstart : now = reading anchor now oversleeps 0 := rfl
  obtain ⟨last, -, heq, hbetween, hnear⟩ := exists_sleepUntil now 0 hstart
  exact ⟨last, heq, fun k hk => hbetween k (Nat.zero_le k) hk, hnear⟩

namespace Sleeps

variable {sleeps : Nat}

-- There are logarithmically many sleeps in what is left at first.
theorem le_log2 (h : Sleeps anchor now oversleeps sleeps) : sleeps ≤ Nat.log2 ((anchor - now) / sleepMin) + 2 := by
  by_cases hfew : sleeps ≤ 1
  · omega
  · obtain ⟨m, rfl⟩ := Nat.exists_eq_add_of_le' (Nat.lt_of_not_le hfew)
    have hlast := h.far (m + 1) (by omega)
    have hpow := pow_mul_remaining_le anchor now oversleeps (m + 1)
    have hleft : 2 ^ m * sleepMin ≤ anchor - now := by
      calc
        2 ^ m * sleepMin ≤ 2 ^ m * (2 * (remaining anchor now oversleeps (m + 1) - 1)) := by
          apply Nat.mul_le_mul_left
          unfold sleepMin at *
          omega
        _ = 2 ^ (m + 1) * (remaining anchor now oversleeps (m + 1) - 1) := by rw [Nat.pow_succ, Nat.mul_assoc]
        _ ≤ anchor - now := by omega
    have hquotient : 2 ^ m ≤ (anchor - now) / sleepMin := (Nat.le_div_iff_mul_le (by decide)).mpr hleft
    have hlog : m ≤ Nat.log2 ((anchor - now) / sleepMin) :=
      (Nat.le_log2 (Nat.ne_of_gt (Nat.lt_of_lt_of_le (Nat.two_pow_pos m) hquotient))).mpr hquotient
    omega

-- Where the anchor is past, nothing is slept.
theorem eq_zero_of_le (h : Sleeps anchor now oversleeps sleeps) (hpast : anchor ≤ now) : sleeps = 0 := by
  apply Nat.eq_zero_of_not_pos
  intro hsome
  have hfirst := h.far 0 hsome
  unfold remaining reading sleepMin at hfirst
  omega

-- A nap that sleeps is late by no more than its last sleep takes longer.
theorem reading_le (h : Sleeps anchor now oversleeps (sleeps + 1)) :
    reading anchor now oversleeps (sleeps + 1) ≤ anchor + oversleeps sleeps := by
  have hlast := h.far sleeps (Nat.lt_succ_self sleeps)
  unfold remaining sleepMin at hlast
  rw [reading]
  omega

end Sleeps

end Timeline

namespace ClockedTimeline

variable {s : ClockedTimeline}

-- Neither the anchor nor the clock is before the start.
structure Valid (s : ClockedTimeline) : Prop where
  anchor : s.timeline.start ≤ s.timeline.anchor
  now : s.timeline.start ≤ s.now

theorem valid_startAt (now : Nat) : (startAt now).Valid := ⟨Nat.le_refl now, Nat.le_refl now⟩

-- The time at which a nap looks at the clock for the first time.
def found (s : ClockedTimeline) (n : Nap) : Nat := s.now + n.idle

-- How a nap goes. The anchor moves by the delay and by nothing else, so that the delay is shorter by what the clock is
-- ahead of the anchor. The sleeps are over when the anchor is near. They are few, there are none on the way to an
-- anchor that is past, and the last one alone decides how late it gets.
structure Naps (n : Nap) (before after : ClockedTimeline) (sleeps : Nat) : Prop where
  anchor : after.timeline.anchor = before.timeline.anchor + n.delay
  shortened : before.timeline.anchor ≤ before.found n →
    after.timeline.anchor - before.found n = n.delay - (before.found n - before.timeline.anchor)
  counted : Timeline.sleepUntil after.timeline.anchor (before.found n) n.oversleeps 0 = (after.now, sleeps)
  ends : Timeline.Sleeps after.timeline.anchor (before.found n) n.oversleeps sleeps
  halves : ∀ k, 2 * Timeline.remaining after.timeline.anchor (before.found n) n.oversleeps (k + 1) ≤
    Timeline.remaining after.timeline.anchor (before.found n) n.oversleeps k + 1
  clock : after.now = Timeline.reading after.timeline.anchor (before.found n) n.oversleeps sleeps
  few : sleeps ≤ Nat.log2 ((after.timeline.anchor - before.found n) / Timeline.sleepMin) + 2
  notEarly : after.timeline.anchor < after.now + Timeline.sleepMin
  awake : after.timeline.anchor ≤ before.found n → sleeps = 0
  late : 0 < sleeps → after.now ≤ after.timeline.anchor + n.oversleeps (sleeps - 1)

theorem exists_naps (s : ClockedTimeline) (n : Nap) : ∃ sleeps, Naps n s (s.step (.nap n)) sleeps := by
  obtain ⟨sleeps, hloop, hsleeps⟩ := Timeline.exists_sleeps (s.timeline.anchor + n.delay) (s.found n) n.oversleeps
  have hclock : (s.step (.nap n)).now =
      Timeline.reading (s.timeline.anchor + n.delay) (s.found n) n.oversleeps sleeps := congrArg Prod.fst hloop
  refine ⟨sleeps, rfl, ?_, hloop.trans (by rw [hclock]), hsleeps, Timeline.remaining_succ _ _ _, hclock,
    hsleeps.le_log2, ?_, hsleeps.eq_zero_of_le, ?_⟩
  · intro hahead
    change s.timeline.anchor + n.delay - s.found n = _
    omega
  · have hnear := hsleeps.near
    rw [hclock]
    change s.timeline.anchor + n.delay < _
    unfold Timeline.remaining at hnear
    omega
  · intro hslept
    obtain ⟨k, rfl⟩ := Nat.exists_eq_succ_of_ne_zero (Nat.ne_of_gt hslept)
    rw [hclock]
    exact hsleeps.reading_le

theorem start_step (s : ClockedTimeline) (call : TimelineCall) : (s.step call).timeline.start = s.timeline.start := by
  cases call <;> rfl

-- The clock only moves forward.
theorem now_le_step (s : ClockedTimeline) (call : TimelineCall) : s.now ≤ (s.step call).now := by
  cases call with
  | nap n =>
    obtain ⟨sleeps, h⟩ := s.exists_naps n
    have hread := Timeline.le_reading (s.step (.nap n)).timeline.anchor (s.found n) n.oversleeps sleeps
    rw [← h.clock] at hread
    exact Nat.le_trans (Nat.le_add_right s.now n.idle) hread
  | sync idle => exact Nat.le_add_right s.now idle

theorem Valid.step (h : s.Valid) (call : TimelineCall) : (s.step call).Valid where
  anchor := by
    rw [start_step]
    cases call with
    | nap n => exact Nat.le_trans h.anchor (Nat.le_add_right _ n.delay)
    | sync idle => exact Nat.le_trans h.now (Nat.le_add_right s.now idle)
  now := by
    rw [start_step]
    exact Nat.le_trans h.now (now_le_step s call)

theorem Valid.run (h : s.Valid) (calls : List TimelineCall) : (s.run calls).Valid := by
  induction calls generalizing s with
  | nil => exact h
  | cons call rest ih => exact ih (h.step call)

theorem start_run (s : ClockedTimeline) (calls : List TimelineCall) :
    (s.run calls).timeline.start = s.timeline.start := by
  induction calls generalizing s with
  | nil => rfl
  | cons call rest ih => exact (ih (s.step call)).trans (start_step s call)

theorem elapsed_step_nap (h : s.Valid) (n : Nap) :
    (s.step (.nap n)).timeline.elapsed = s.timeline.elapsed + n.delay := by
  have hanchor := h.anchor
  change s.timeline.anchor + n.delay - s.timeline.start = s.timeline.anchor - s.timeline.start + n.delay
  omega

theorem elapsed_step_sync (s : ClockedTimeline) (idle : Nat) :
    (s.step (.sync idle)).timeline.elapsed = (s.step (.sync idle)).now - s.timeline.start := rfl

-- Nap after nap the anchor moves by the delays.
theorem elapsed_run_naps (h : s.Valid) (naps : List Nap) :
    (s.run (naps.map .nap)).timeline.elapsed = s.timeline.elapsed + (naps.map Nap.delay).sum := by
  induction naps generalizing s with
  | nil => rfl
  | cons n rest ih =>
    calc
      (s.run ((n :: rest).map .nap)).timeline.elapsed = ((s.step (.nap n)).run (rest.map .nap)).timeline.elapsed := rfl
      _ = (s.step (.nap n)).timeline.elapsed + (rest.map Nap.delay).sum := ih (h.step (.nap n))
      _ = s.timeline.elapsed + ((n :: rest).map Nap.delay).sum := by
        rw [elapsed_step_nap h, List.map_cons, List.sum_cons, Nat.add_assoc]

theorem run_append (s : ClockedTimeline) (calls more : List TimelineCall) :
    s.run (calls ++ more) = (s.run calls).run more := List.foldl_append

-- After any calls, a nap ends, and it ends neither early nor later than its last sleep makes it. A synchronisation
-- brings the anchor to the clock. From there, or from the start, the anchor moves by the delays alone, however long
-- the sleeps of the naps took.
theorem naps_keep_time (now : Nat) (calls : List TimelineCall) :
    (∀ n : Nap, ∃ sleeps, Naps n ((startAt now).run calls) ((startAt now).run (calls ++ [.nap n])) sleeps) ∧
      (∀ idle, ((startAt now).run (calls ++ [.sync idle])).timeline.elapsed =
        ((startAt now).run calls).now + idle - now) ∧
      (∀ naps : List Nap, ((startAt now).run (calls ++ naps.map .nap)).timeline.elapsed =
        ((startAt now).run calls).timeline.elapsed + (naps.map Nap.delay).sum) ∧
      (startAt now).timeline.elapsed = 0 := by
  have hvalid := (valid_startAt now).run calls
  refine ⟨fun n => ?_, fun idle => ?_, fun naps => ?_, Nat.sub_self now⟩
  · rw [run_append]
    exact exists_naps _ n
  · have hstart := start_run (startAt now) calls
    rw [run_append]
    exact (elapsed_step_sync _ idle).trans (congrArg _ hstart)
  · rw [run_append]
    exact elapsed_run_naps hvalid naps

end ClockedTimeline

end UwbRanging
