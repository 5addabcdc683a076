import UwbRanging.Proofs.Engine.Requests
import UwbRanging.Proofs.Engine.Timeline

namespace UwbRanging

namespace ClockedTimeline

variable (s : ClockedTimeline)

theorem length_readings (calls : List TimelineCall) : (s.readings calls).length = calls.length := by
  induction calls generalizing s with
  | nil => rfl
  | cons call rest ih => exact congrArg (· + 1) (ih (s.step call))

theorem getElem?_readings {calls : List TimelineCall} {i : Nat} (hi : i < calls.length) :
    (s.readings calls)[i]? = some (s.run (calls.take (i + 1))).now := by
  induction calls generalizing s i with
  | nil => cases hi
  | cons call rest ih =>
    cases i with
    | zero => rfl
    | succ i => exact ih (s.step call) (Nat.lt_of_succ_lt_succ hi)

theorem anchor_run_naps (naps : List Nap) :
    (s.run (naps.map .nap)).timeline.anchor = s.timeline.anchor + (naps.map Nap.delay).sum := by
  induction naps generalizing s with
  | nil => rfl
  | cons n rest ih =>
    calc
      (s.run ((n :: rest).map .nap)).timeline.anchor = ((s.step (.nap n)).run (rest.map .nap)).timeline.anchor := rfl
      _ = s.timeline.anchor + n.delay + (rest.map Nap.delay).sum := ih (s.step (.nap n))
      _ = s.timeline.anchor + ((n :: rest).map Nap.delay).sum := by
        rw [List.map_cons, List.sum_cons, Nat.add_assoc]

theorem run_take_succ {naps : List Nap} {i : Nat} {n : Nap} (hn : naps[i]? = some n) :
    s.run ((naps.take (i + 1)).map .nap) = (s.run ((naps.take i).map .nap)).step (.nap n) := by
  rw [List.take_add_one, hn, List.map_append, run_append]
  rfl

end ClockedTimeline

namespace RangingConfig

variable (config : RangingConfig)

-- The time that should pass between the requests of an attempt.
def gaps : List Nat := [config.delay1Nanos, config.delay2Nanos]

def naps (steps : List BlinkStep) : List Nap :=
  [(steps.getD 0 {}).nap config.delay1Nanos, (steps.getD 1 {}).nap config.delay2Nanos]

theorem pauses_eq (steps : List BlinkStep) : config.pauses steps = .sync 0 :: (config.naps steps).map .nap := rfl

theorem getElem?_naps (steps : List BlinkStep) {i : Nat} (hi : i < 2) :
    (config.naps steps)[i]? = some ((steps.getD i {}).nap (config.gaps.getD i 0)) := by
  match i, hi with
  | 0, _ => rfl
  | 1, _ => rfl

-- The engine's timeline when it makes a request after so many others.
def clockAt (script : Script) (asked : Nat) : ClockedTimeline :=
  (script.clock.step (.sync 0)).run (((config.naps script.blinks).take asked).map .nap)

theorem run_pauses (script : Script) (asked : Nat) :
    script.clock.run ((config.pauses script.blinks).take (asked + 1)) = config.clockAt script asked := by
  rw [pauses_eq, List.take_succ_cons, ← List.map_take]
  rfl

theorem anchor_clockAt (script : Script) (asked : Nat) :
    (config.clockAt script asked).timeline.anchor = script.clock.now + (config.gaps.take asked).sum := by
  rw [clockAt, ClockedTimeline.anchor_run_naps, List.map_take]
  rfl

theorem pauses_take {steps : List BlinkStep} {asked : Nat} (hasked : asked ≤ steps.length) :
    (config.pauses (steps.take asked)).take (asked + 1) = (config.pauses steps).take (asked + 1) := by
  have hstep {i : Nat} (hi : i < asked) : (steps.take asked).getD i {} = steps.getD i {} := by
    rw [List.getD_eq_getElem?_getD, List.getD_eq_getElem?_getD, List.getElem?_take_of_lt hi]
  match asked with
  | 0 => rfl
  | 1 =>
    rw [pauses, pauses, hstep Nat.zero_lt_one]
    rfl
  | n + 2 => rw [pauses, pauses, hstep (Nat.zero_lt_succ _), hstep (by omega)]

-- The steps so far tell when the next blink is asked for.
theorem due_take (script : Script) {asked : Nat} (hasked : asked ≤ script.blinks.length) :
    config.due script.clock (script.blinks.take asked) = (config.clockAt script asked).now := by
  rw [due, List.length_take, Nat.min_eq_left hasked, config.pauses_take hasked, run_pauses]

theorem exists_naps_clockAt (script : Script) {asked : Nat} (hasked : asked < 2) :
    ∃ sleeps, ClockedTimeline.Naps ((script.blinks.getD asked {}).nap (config.gaps.getD asked 0))
      (config.clockAt script asked) (config.clockAt script (asked + 1)) sleeps := by
  have hnap := config.getElem?_naps script.blinks hasked
  unfold clockAt
  rw [ClockedTimeline.run_take_succ _ hnap]
  exact ClockedTimeline.exists_naps _ _

end RangingConfig

-- When the requests of an attempt are made, on the clock that `script` begins with.
structure Run.Paced (run : Run) (config : RangingConfig) (script : Script) : Prop where
  -- each request has its time, and the first one is made at once
  counted : run.times.length = run.calls.length
  first : run.times[0]? = some script.clock.now
  last : run.times.getLast? = some run.clock.now
  -- the anchor moves by the gaps alone, whatever the requests and the sleeps take
  anchor : run.clock.timeline.anchor = script.clock.now + (config.gaps.take (run.calls.length - 1)).sum
  -- no request comes before the one ahead of it is done, nor before its own time by more than a sleep is worth
  ordered : ∀ i t later, run.times[i]? = some t → run.times[i + 1]? = some later →
    t + (script.blinks.getD i {}).took ≤ later
  notEarly : ∀ i t, run.times[i]? = some t → script.clock.now + (config.gaps.take i).sum < t + Timeline.sleepMin
  -- where it had to wait, one sleep alone makes it late
  late : ∀ i t later, run.times[i]? = some t → run.times[i + 1]? = some later →
    later = t + (script.blinks.getD i {}).took ∨
      ∃ k, later ≤ script.clock.now + (config.gaps.take (i + 1)).sum + (script.blinks.getD i {}).oversleeps k

namespace Attempt

variable (config : RangingConfig) (table : ExchangeTable) (a : Attempt)

theorem length_calls_le : (config.perform table a.trio a.script).calls.length ≤ 3 := by
  have hlength := (a.conducted config table).devices.length_le
  rwa [List.length_map] at hlength

theorem length_calls_pos : 0 < (config.perform table a.trio a.script).calls.length := by
  rcases (a.conducted config table).ended with hall | ⟨call, e, hlast, -⟩
  · omega
  · exact List.length_pos_of_mem (List.mem_of_getLast? hlast)

theorem times_perform : (config.perform table a.trio a.script).times = a.script.clock.readings
    ((config.pauses a.script.blinks).take (config.perform table a.trio a.script).calls.length) := rfl

theorem length_times :
    (config.perform table a.trio a.script).times.length = (config.perform table a.trio a.script).calls.length := by
  rw [times_perform, ClockedTimeline.length_readings, List.length_take]
  exact Nat.min_eq_left (a.length_calls_le config table)

theorem getElem?_times {i : Nat} (hi : i < (config.perform table a.trio a.script).calls.length) :
    (config.perform table a.trio a.script).times[i]? = some (config.clockAt a.script i).now := by
  have hi' := (a.length_times config table).symm ▸ hi
  rw [times_perform, ClockedTimeline.length_readings] at hi'
  rw [times_perform, ClockedTimeline.getElem?_readings _ hi', List.take_take, Nat.min_eq_left hi,
    RangingConfig.run_pauses]

-- A request that is made has its place, and is made at the time of that place.
theorem of_getElem?_times {i t : Nat} (ht : (config.perform table a.trio a.script).times[i]? = some t) :
    i < (config.perform table a.trio a.script).calls.length ∧ t = (config.clockAt a.script i).now := by
  obtain ⟨hi, -⟩ := List.getElem?_eq_some_iff.mp ht
  rw [length_times] at hi
  rw [a.getElem?_times config table hi] at ht
  exact ⟨hi, (Option.some.inj ht).symm⟩

theorem clock_perform : (config.perform table a.trio a.script).clock =
    config.clockAt a.script ((config.perform table a.trio a.script).calls.length - 1) := by
  have hpos := a.length_calls_pos config table
  rw [← RangingConfig.run_pauses, Nat.sub_add_cancel hpos]
  rfl

-- From one request to the next the engine naps.
theorem exists_naps_times {i t later : Nat} (ht : (config.perform table a.trio a.script).times[i]? = some t)
    (hlater : (config.perform table a.trio a.script).times[i + 1]? = some later) :
    ∃ sleeps, ClockedTimeline.Naps ((a.script.blinks.getD i {}).nap (config.gaps.getD i 0))
      (config.clockAt a.script i) (config.clockAt a.script (i + 1)) sleeps ∧
      t = (config.clockAt a.script i).now ∧ later = (config.clockAt a.script (i + 1)).now := by
  have hthree := a.length_calls_le config table
  obtain ⟨-, ht⟩ := a.of_getElem?_times config table ht
  obtain ⟨hi, hlater⟩ := a.of_getElem?_times config table hlater
  obtain ⟨sleeps, h⟩ := config.exists_naps_clockAt a.script (show i < 2 by omega)
  exact ⟨sleeps, h, ht, hlater⟩

-- The requests of an attempt keep the configured gaps. What one of them or one sleep takes too long shortens the gap
-- after it, so that delays do not add up.
theorem perform_paced : (config.perform table a.trio a.script).Paced config a.script where
  counted := a.length_times config table
  first := a.getElem?_times config table (a.length_calls_pos config table)
  last := by
    have hpos := a.length_calls_pos config table
    rw [List.getLast?_eq_getElem?, length_times, clock_perform]
    exact a.getElem?_times config table (by omega)
  anchor := by rw [clock_perform, RangingConfig.anchor_clockAt]
  ordered := by
    intro i t later ht hlater
    obtain ⟨sleeps, h, rfl, rfl⟩ := a.exists_naps_times config table ht hlater
    rw [h.clock]
    exact Timeline.le_reading _ _ _ _
  notEarly := by
    intro i t ht
    obtain ⟨hi, rfl⟩ := a.of_getElem?_times config table ht
    have hthree := a.length_calls_le config table
    rw [← RangingConfig.anchor_clockAt]
    cases i with
    | zero => exact Nat.lt_add_of_pos_right (by decide)
    | succ i =>
      obtain ⟨sleeps, h⟩ := config.exists_naps_clockAt a.script (show i < 2 by omega)
      exact h.notEarly
  late := by
    intro i t later ht hlater
    obtain ⟨sleeps, h, rfl, rfl⟩ := a.exists_naps_times config table ht hlater
    cases sleeps with
    | zero => exact .inl h.clock
    | succ k => exact .inr ⟨k, config.anchor_clockAt a.script (i + 1) ▸ h.late (Nat.succ_pos k)⟩

end Attempt

end UwbRanging
