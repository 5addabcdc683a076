import Mathlib.Data.Rat.Cast.Defs
import Mathlib.Tactic.Ring
import UwbRanging.Twr.Estimate
import UwbRanging.Twr.Slot

namespace UwbRanging

-- A device's clock over the true time: how fast it counts, what it shows at time zero, and its antenna
-- error, by which it reads what it sends too early and what it hears too late.
structure DeviceClock where
  rate : Int
  epoch : Int
  antenna : Int
  deriving DecidableEq, Repr

namespace DeviceClock

-- The reading of a frame that the device sends at that time.
def sent (c : DeviceClock) (time : Int) : Int := c.epoch + c.rate * (time - c.antenna)

-- The reading of a frame that reaches the device at that time.
def heard (c : DeviceClock) (time : Int) : Int := c.epoch + c.rate * (time + c.antenna)

-- The harmonic mean of two clocks' rates.
def meanRate (a b : DeviceClock) : ℚ := 2 * a.rate * b.rate / (a.rate + b.rate)

end DeviceClock

namespace TwrTimestamps

-- What the formulas add up and subtract, of which the numerator is the only one that is made of products.
def sums (t : TwrTimestamps) : List Int :=
  [t.t41, t.t32, t.t54, t.t63, t.t51, t.t62, t.denominator, t.t62 - t.t51, t.t41 - t.t32, t.t63 - t.t54, t.naiveSum]

-- Nothing leaves its word of 128 bits on the way, so that the formulas are computed in integers.
def Exact (t : TwrTimestamps) : Prop :=
  (∀ n ∈ t.sums, fits128 n = true) ∧ fits128 (t.t41 * t.t63) = true ∧ fits128 (t.t32 * t.t54) = true ∧
    fits128 t.numerator = true

instance (t : TwrTimestamps) : Decidable t.Exact := inferInstanceAs (Decidable (_ ∧ _))

theorem fits128_iff {n : Int} : fits128 n = true ↔
    -0x80000000000000000000000000000000 ≤ n ∧ n < 0x80000000000000000000000000000000 := by
  simp [fits128]

theorem wrap128_of_fits {n : Int} (h : fits128 n = true) : wrap128 n = n := by
  obtain ⟨hlow, hhigh⟩ := fits128_iff.mp h
  exact Int.bmod_eq_of_le hlow hhigh

theorem checked128_of_fits {n : Int} (h : fits128 n = true) : checked128 n = some n := if_pos h

-- The difference of the two products leaves its word though they both fit theirs. It is taken unless the quotient is
-- degenerate.
def Overflows (t : TwrTimestamps) : Prop :=
  t.denominator ≠ 0 ∧ fits128 (t.t41 * t.t63) = true ∧ fits128 (t.t32 * t.t54) = true ∧ fits128 t.numerator = false

instance (t : TwrTimestamps) : Decidable t.Overflows := inferInstanceAs (Decidable (_ ∧ _))

-- The numerator as a float, in integers of any size. Products that do not fit a word are floats all the same.
def numeratorFloat (t : TwrTimestamps) : Float :=
  if fits128 (t.t41 * t.t63) && fits128 (t.t32 * t.t54) then Binary64.ofInt t.numerator
  else Binary64.ofInt t.t41 * Binary64.ofInt t.t63 - Binary64.ofInt t.t32 * Binary64.ofInt t.t54

variable {t : TwrTimestamps}

theorem Exact.not_overflows (h : t.Exact) : ¬ t.Overflows := by
  rintro ⟨-, -, -, hwide⟩
  rw [h.2.2.2] at hwide
  cases hwide

theorem Exact.numeratorFloat_eq (h : t.Exact) : t.numeratorFloat = Binary64.ofInt t.numerator :=
  if_pos (Bool.and_eq_true_iff.mpr ⟨h.2.1, h.2.2.1⟩)

-- The intervals of times that are not too far apart are what they should be.
theorem intervals_eq (h : ∀ n ∈ t.sums, fits128 n = true) :
    t.intervals = some ⟨t.t41, t.t32, t.t54, t.t63, t.t51, t.t62⟩ := by
  unfold intervals
  rw [checked128_of_fits (h t.t41 (by simp [sums])), checked128_of_fits (h t.t32 (by simp [sums])),
    checked128_of_fits (h t.t54 (by simp [sums])), checked128_of_fits (h t.t63 (by simp [sums])),
    checked128_of_fits (h t.t51 (by simp [sums])), checked128_of_fits (h t.t62 (by simp [sums]))]
  rfl

theorem numeratorFloat_intervals (hden : t.denominator ≠ 0) :
    Intervals.numeratorFloat ⟨t.t41, t.t32, t.t54, t.t63, t.t51, t.t62⟩ =
      if t.Overflows then none else some t.numeratorFloat := by
  cases hproducts : fits128 (t.t41 * t.t63) && fits128 (t.t32 * t.t54) with
  | false =>
    have hfits : ¬ t.Overflows := fun hover => by
      rw [hover.2.1, hover.2.2.1] at hproducts
      cases hproducts
    rw [Intervals.numeratorFloat, Intervals.productsFit, numeratorFloat, hproducts, if_neg hfits]
    rfl
  | true =>
    obtain ⟨hfirst, hsecond⟩ := Bool.and_eq_true_iff.mp hproducts
    rw [Intervals.numeratorFloat, Intervals.productsFit, numeratorFloat, hproducts, Intervals.numerator, if_pos rfl,
      if_pos rfl]
    change (checked128 t.numerator).map Binary64.ofInt = _
    cases hnumerator : fits128 t.numerator with
    | true =>
      have hfits : ¬ t.Overflows := fun hover => by
        rw [hover.2.2.2] at hnumerator
        cases hnumerator
      rw [if_neg hfits, checked128_of_fits hnumerator]
      rfl
    | false =>
      have hover : t.Overflows := ⟨hden, hfirst, hsecond, hnumerator⟩
      rw [if_pos hover, checked128, hnumerator]
      rfl

-- As long as no other sum leaves its word, the estimate is made of four quotients of integers, of which the first may
-- be one of floats. Two of the divisors can be zero.
theorem tofRatio_of_sums (h : ∀ n ∈ t.sums, fits128 n = true) : t.tofRatio =
    if t.Overflows then none
    else if t.denominator = 0 then some (.error .degenerateTiming)
    else some (.ok (t.numeratorFloat / Binary64.ofInt t.denominator)) := by
  have hden : Intervals.denominator ⟨t.t41, t.t32, t.t54, t.t63, t.t51, t.t62⟩ = some t.denominator :=
    checked128_of_fits (h t.denominator (by simp [sums]))
  rw [tofRatio, intervals_eq h]
  dsimp only [bind, Option.bind]
  rw [hden]
  dsimp only
  by_cases hzero : t.denominator = 0
  · have hfits : ¬ t.Overflows := fun hover => hover.1 hzero
    rw [if_pos hzero, if_neg hfits, if_pos hzero]
    rfl
  · rw [if_neg hzero, if_neg hzero, numeratorFloat_intervals hzero]
    by_cases hover : t.Overflows
    · rw [if_pos hover, if_pos hover]
    · rw [if_neg hover, if_neg hover]
      rfl

theorem clockPpm_of_sums (h : ∀ n ∈ t.sums, fits128 n = true) : t.clockPpm =
    if t.t62 = 0 then some (.error .degenerateTiming)
    else some (.ok (Binary64.ofInt (t.t62 - t.t51) / Binary64.ofInt t.t62 * 1e6)) := by
  have hlead : Intervals.lead ⟨t.t41, t.t32, t.t54, t.t63, t.t51, t.t62⟩ = some (t.t62 - t.t51) :=
    checked128_of_fits (h (t.t62 - t.t51) (by simp [sums]))
  rw [clockPpm, intervals_eq h]
  dsimp only [bind, Option.bind]
  rw [hlead]
  rfl

theorem naiveTof_of_sums (h : ∀ n ∈ t.sums, fits128 n = true) :
    t.naiveTof = some (Binary64.ofInt t.naiveSum / 4.0) := by
  have hsum : Intervals.naiveSum ⟨t.t41, t.t32, t.t54, t.t63, t.t51, t.t62⟩ = some t.naiveSum := by
    rw [Intervals.naiveSum, checked128_of_fits (h (t.t41 - t.t32) (by simp [sums])),
      checked128_of_fits (h (t.t63 - t.t54) (by simp [sums]))]
    exact checked128_of_fits (h t.naiveSum (by simp [sums]))
  rw [naiveTof, intervals_eq h]
  dsimp only [bind, Option.bind]
  rw [hsum]
  rfl

theorem estimate_of_sums (h : ∀ n ∈ t.sums, fits128 n = true) (clockHz : Float) : t.estimate clockHz =
    if t.Overflows then none
    else if t.denominator = 0 ∨ t.t62 = 0 then some (.error .degenerateTiming)
    else some (.ok {
      tofCounts := t.numeratorFloat / Binary64.ofInt t.denominator
      tofSeconds := t.numeratorFloat / Binary64.ofInt t.denominator / clockHz
      clockPpm := Binary64.ofInt (t.t62 - t.t51) / Binary64.ofInt t.t62 * 1e6
      roundTripSeconds := Binary64.ofInt t.t41 / clockHz }) := by
  rw [estimate, tofRatio_of_sums h, clockPpm_of_sums h, checked128_of_fits (h t.t41 (by simp [sums]))]
  by_cases hover : t.Overflows
  · rw [if_pos hover, if_pos hover]
    rfl
  rw [if_neg hover, if_neg hover]
  by_cases hden : t.denominator = 0
  · have hzero : t.denominator = 0 ∨ t.t62 = 0 := .inl hden
    rw [if_pos hden, if_pos hzero]
    rfl
  by_cases hspan : t.t62 = 0
  · have hzero : t.denominator = 0 ∨ t.t62 = 0 := .inr hspan
    rw [if_neg hden, if_pos hspan, if_pos hzero]
    rfl
  · rw [if_neg hden, if_neg hspan, if_neg (not_or.mpr ⟨hden, hspan⟩)]
    rfl

theorem tofRatio_eq (hexact : t.Exact) (hden : t.denominator ≠ 0) :
    t.tofRatio = some (.ok (Binary64.ofInt t.numerator / Binary64.ofInt t.denominator)) := by
  rw [tofRatio_of_sums hexact.1, if_neg hexact.not_overflows, if_neg hden, hexact.numeratorFloat_eq]

theorem clockPpm_eq (hexact : t.Exact) (hppm : t.t62 ≠ 0) :
    t.clockPpm = some (.ok (Binary64.ofInt (t.t62 - t.t51) / Binary64.ofInt t.t62 * 1e6)) := by
  rw [clockPpm_of_sums hexact.1, if_neg hppm]

-- If nothing leaves its word, all four are quotients of integers.
theorem estimate_eq (hexact : t.Exact) (hden : t.denominator ≠ 0) (hppm : t.t62 ≠ 0)
    (clockHz : Float) :
    t.estimate clockHz = some (.ok {
      tofCounts := Binary64.ofInt t.numerator / Binary64.ofInt t.denominator
      tofSeconds := Binary64.ofInt t.numerator / Binary64.ofInt t.denominator / clockHz
      clockPpm := Binary64.ofInt (t.t62 - t.t51) / Binary64.ofInt t.t62 * 1e6
      roundTripSeconds := Binary64.ofInt t.t41 / clockHz }) := by
  rw [estimate_of_sums hexact.1, if_neg hexact.not_overflows, if_neg (not_or.mpr ⟨hden, hppm⟩),
    hexact.numeratorFloat_eq]

-- Only three of the four intervals are free on each clock, which leaves the numerator one product
-- for each clock and one of both.
theorem numerator_eq (t : TwrTimestamps) :
    t.numerator = t.t41 * t.t62 + t.t63 * t.t51 - t.t51 * t.t62 := by
  unfold numerator t41 t63 t32 t54 t51 t62
  ring

section Rates

variable {first second x y span : Int}

-- Both clocks count the same span from their first to their last reading, each at its own rate. What
-- the two round trips exceed that span by is what the ratio measures.
theorem numerator_mul_rates (h41 : t.t41 = first * x) (h63 : t.t63 = second * y)
    (h51 : t.t51 = first * span) (h62 : t.t62 = second * span) :
    t.numerator * (first + second) = first * second * (x + y - span) * t.denominator := by
  rw [numerator_eq, denominator, h41, h63, h51, h62]
  ring

theorem ratio_eq (h41 : t.t41 = first * x) (h63 : t.t63 = second * y)
    (h51 : t.t51 = first * span) (h62 : t.t62 = second * span) (hden : t.denominator ≠ 0) :
    (t.numerator : ℚ) / t.denominator = first * second * (x + y - span : Int) / (first + second) := by
  have hrates : first + second ≠ 0 := by
    intro h
    apply hden
    rw [denominator, h51, h62, ← add_mul, h, zero_mul]
  have hden' : (t.denominator : ℚ) ≠ 0 := by exact_mod_cast hden
  have hrates' : (first + second : ℚ) ≠ 0 := by exact_mod_cast hrates
  rw [div_eq_div_iff hden' hrates']
  exact_mod_cast numerator_mul_rates h41 h63 h51 h62

end Rates

end TwrTimestamps

-- Two devices that range: the first one blinks at time zero, the second one a delay after it has heard
-- that, and the first one again a delay after it has heard the answer.
structure TwoWayScene where
  initiator : DeviceClock
  responder : DeviceClock
  flight : Int
  reply : Int
  pause : Int
  deriving DecidableEq, Repr

namespace TwoWayScene

-- What the device of a slot reads of the slot's blink.
def reading (s : TwoWayScene) (slot : Slot) : Int :=
  match slot.onFirstClock, slot.blink with
  | true, 0 => s.initiator.sent 0
  | true, 1 => s.initiator.heard (2 * s.flight + s.reply)
  | true, _ => s.initiator.sent (2 * s.flight + s.reply + s.pause)
  | false, 0 => s.responder.heard s.flight
  | false, 1 => s.responder.sent (s.flight + s.reply)
  | false, _ => s.responder.heard (3 * s.flight + s.reply + s.pause)

def times (s : TwoWayScene) : TwrTimestamps :=
  ⟨s.reading .t1, s.reading .t2, s.reading .t3, s.reading .t4, s.reading .t5, s.reading .t6⟩

-- From its first to its last reading each device sees the whole exchange pass, on its own clock.
def span (s : TwoWayScene) : Int := 2 * s.flight + s.reply + s.pause

variable (s : TwoWayScene)

theorem times_eq : s.times =
    { t1 := s.initiator.epoch - s.initiator.rate * s.initiator.antenna
      t2 := s.responder.epoch + s.responder.rate * (s.flight + s.responder.antenna)
      t3 := s.responder.epoch + s.responder.rate * (s.flight + s.reply - s.responder.antenna)
      t4 := s.initiator.epoch + s.initiator.rate * (2 * s.flight + s.reply + s.initiator.antenna)
      t5 := s.initiator.epoch + s.initiator.rate * (2 * s.flight + s.reply + s.pause - s.initiator.antenna)
      t6 := s.responder.epoch + s.responder.rate * (3 * s.flight + s.reply + s.pause + s.responder.antenna) } := by
  have hfirst : s.initiator.sent 0 = s.initiator.epoch - s.initiator.rate * s.initiator.antenna := by
    unfold DeviceClock.sent
    ring
  unfold times
  rw [← hfirst]
  rfl

theorem t41_times : s.times.t41 = s.initiator.rate * (2 * s.flight + s.reply + 2 * s.initiator.antenna) := by
  rw [times_eq, TwrTimestamps.t41]
  ring

theorem t63_times : s.times.t63 = s.responder.rate * (2 * s.flight + s.pause + 2 * s.responder.antenna) := by
  rw [times_eq, TwrTimestamps.t63]
  ring

theorem t51_times : s.times.t51 = s.initiator.rate * s.span := by
  rw [times_eq, TwrTimestamps.t51, span]
  ring

theorem t62_times : s.times.t62 = s.responder.rate * s.span := by
  rw [times_eq, TwrTimestamps.t62, span]
  ring

theorem numerator_times : s.times.numerator * (s.initiator.rate + s.responder.rate) =
    2 * s.initiator.rate * s.responder.rate * (s.flight + s.initiator.antenna + s.responder.antenna)
      * s.times.denominator := by
  rw [TwrTimestamps.numerator_mul_rates s.t41_times s.t63_times s.t51_times s.t62_times, span]
  ring

theorem ratio_times (hden : s.times.denominator ≠ 0) :
    (s.times.numerator : ℚ) / s.times.denominator =
      (s.flight + s.initiator.antenna + s.responder.antenna : Int) * s.initiator.meanRate s.responder := by
  rw [TwrTimestamps.ratio_eq s.t41_times s.t63_times s.t51_times s.t62_times hden, span, DeviceClock.meanRate]
  push_cast
  ring

theorem drift_times : (s.times.t62 - s.times.t51) * s.responder.rate =
    (s.responder.rate - s.initiator.rate) * s.times.t62 := by
  rw [t62_times, t51_times]
  ring

-- Only equal clocks or equal delays free the plain average of the second summand.
theorem naiveSum_times (hinitiator : s.initiator.antenna = 0) (hresponder : s.responder.antenna = 0) :
    s.times.naiveSum = 2 * s.flight * (s.initiator.rate + s.responder.rate)
      + (s.initiator.rate - s.responder.rate) * (s.reply - s.pause) := by
  rw [times_eq, hinitiator, hresponder, TwrTimestamps.naiveSum, TwrTimestamps.t41, TwrTimestamps.t32,
    TwrTimestamps.t63, TwrTimestamps.t54]
  ring

-- The estimate of two devices is exact. It does not depend on the delays and the epochs, and of the
-- rates it takes only the harmonic mean, while the plain average is off by drift times asymmetry.
theorem estimate_exact (hexact : s.times.Exact) :
    s.times =
      { t1 := s.initiator.epoch - s.initiator.rate * s.initiator.antenna
        t2 := s.responder.epoch + s.responder.rate * (s.flight + s.responder.antenna)
        t3 := s.responder.epoch + s.responder.rate * (s.flight + s.reply - s.responder.antenna)
        t4 := s.initiator.epoch + s.initiator.rate * (2 * s.flight + s.reply + s.initiator.antenna)
        t5 := s.initiator.epoch + s.initiator.rate * (2 * s.flight + s.reply + s.pause - s.initiator.antenna)
        t6 := s.responder.epoch + s.responder.rate * (3 * s.flight + s.reply + s.pause + s.responder.antenna) } ∧
    s.times.numerator * (s.initiator.rate + s.responder.rate) =
      2 * s.initiator.rate * s.responder.rate * (s.flight + s.initiator.antenna + s.responder.antenna)
        * s.times.denominator ∧
    (s.times.denominator ≠ 0 →
      s.times.tofRatio = some (.ok (Binary64.ofInt s.times.numerator / Binary64.ofInt s.times.denominator)) ∧
      (s.times.numerator : ℚ) / s.times.denominator =
        (s.flight + s.initiator.antenna + s.responder.antenna : Int) * s.initiator.meanRate s.responder) ∧
    (s.times.t62 ≠ 0 →
      s.times.clockPpm =
        some (.ok (Binary64.ofInt (s.times.t62 - s.times.t51) / Binary64.ofInt s.times.t62 * 1e6))) ∧
    (s.times.t62 - s.times.t51) * s.responder.rate = (s.responder.rate - s.initiator.rate) * s.times.t62 ∧
    (s.initiator.antenna = 0 → s.responder.antenna = 0 →
      s.times.naiveTof = some (Binary64.ofInt (2 * s.flight * (s.initiator.rate + s.responder.rate)
        + (s.initiator.rate - s.responder.rate) * (s.reply - s.pause)) / 4.0)) := by
  refine ⟨s.times_eq, s.numerator_times, ?ratio, ?ppm, s.drift_times, ?naive⟩
  case ratio =>
    intro hden
    exact ⟨TwrTimestamps.tofRatio_eq hexact hden, s.ratio_times hden⟩
  case ppm =>
    exact TwrTimestamps.clockPpm_eq hexact
  case naive =>
    intro hinitiator hresponder
    rw [TwrTimestamps.naiveTof_of_sums hexact.1, s.naiveSum_times hinitiator hresponder]

-- A responder that runs fast by fifty parts in a million and answers ten times faster than it is answered.
def unequalReplies : TwoWayScene := ⟨⟨1000000, 7, 0⟩, ⟨1000050, 11, 0⟩, 100, 2000, 20000⟩

theorem estimate_exact_unequalReplies :
    unequalReplies.times.denominator ≠ 0 ∧
    (unequalReplies.times.numerator : ℚ) / unequalReplies.times.denominator =
      (100 + 0 + 0 : Int) * unequalReplies.initiator.meanRate unequalReplies.responder ∧
    unequalReplies.times.naiveTof = some (Binary64.ofInt 400910000 / 4.0) := by
  have hden : unequalReplies.times.denominator ≠ 0 := by decide
  obtain ⟨_, _, hratio, _, _, hnaive⟩ := estimate_exact unequalReplies (by decide)
  exact ⟨hden, (hratio hden).2, hnaive rfl rfl⟩

end TwoWayScene

-- A listener of two devices that range. They blink at free times, and nothing is known of the clock
-- of the first one.
structure ThreeWayScene where
  listener : DeviceClock
  responder : DeviceClock
  firstBlink : Int
  secondBlink : Int
  thirdBlink : Int
  -- the flight times from the initiator to the responder, on to the listener, and to the listener at once
  toResponder : Int
  onward : Int
  direct : Int
  deriving DecidableEq, Repr

namespace ThreeWayScene

-- What the device of a slot reads of the slot's blink: the listener hears all of them.
def reading (s : ThreeWayScene) (slot : Slot) : Int :=
  match slot.onFirstClock, slot.blink with
  | true, 0 => s.listener.heard (s.firstBlink + s.direct)
  | true, 1 => s.listener.heard (s.secondBlink + s.onward)
  | true, _ => s.listener.heard (s.thirdBlink + s.direct)
  | false, 0 => s.responder.heard (s.firstBlink + s.toResponder)
  | false, 1 => s.responder.sent s.secondBlink
  | false, _ => s.responder.heard (s.thirdBlink + s.toResponder)

def times (s : ThreeWayScene) : TwrTimestamps :=
  ⟨s.reading .t1, s.reading .t2, s.reading .t3, s.reading .t4, s.reading .t5, s.reading .t6⟩

-- How much longer the way through the responder is than the direct one, with the responder's errors.
def excess (s : ThreeWayScene) : Int := s.toResponder + s.onward - s.direct + 2 * s.responder.antenna

variable (s : ThreeWayScene)

theorem times_eq : s.times =
    { t1 := s.listener.epoch + s.listener.rate * (s.firstBlink + s.direct + s.listener.antenna)
      t2 := s.responder.epoch + s.responder.rate * (s.firstBlink + s.toResponder + s.responder.antenna)
      t3 := s.responder.epoch + s.responder.rate * (s.secondBlink - s.responder.antenna)
      t4 := s.listener.epoch + s.listener.rate * (s.secondBlink + s.onward + s.listener.antenna)
      t5 := s.listener.epoch + s.listener.rate * (s.thirdBlink + s.direct + s.listener.antenna)
      t6 := s.responder.epoch + s.responder.rate * (s.thirdBlink + s.toResponder + s.responder.antenna) } := rfl

theorem t41_times :
    s.times.t41 = s.listener.rate * (s.secondBlink - s.firstBlink + s.onward - s.direct) := by
  rw [times_eq, TwrTimestamps.t41]
  ring

theorem t63_times :
    s.times.t63 = s.responder.rate * (s.thirdBlink - s.secondBlink + s.toResponder + 2 * s.responder.antenna) := by
  rw [times_eq, TwrTimestamps.t63]
  ring

theorem t51_times : s.times.t51 = s.listener.rate * (s.thirdBlink - s.firstBlink) := by
  rw [times_eq, TwrTimestamps.t51]
  ring

theorem t62_times : s.times.t62 = s.responder.rate * (s.thirdBlink - s.firstBlink) := by
  rw [times_eq, TwrTimestamps.t62]
  ring

theorem numerator_times : s.times.numerator * (s.listener.rate + s.responder.rate) =
    s.listener.rate * s.responder.rate * s.excess * s.times.denominator := by
  rw [TwrTimestamps.numerator_mul_rates s.t41_times s.t63_times s.t51_times s.t62_times, excess]
  ring

theorem twice_ratio_times (hden : s.times.denominator ≠ 0) :
    2 * ((s.times.numerator : ℚ) / s.times.denominator) = s.excess * s.listener.meanRate s.responder := by
  rw [TwrTimestamps.ratio_eq s.t41_times s.t63_times s.t51_times s.t62_times hden, excess, DeviceClock.meanRate]
  push_cast
  ring

-- What is left of the detour in excess of the way from the responder to the listener.
theorem twice_ratio_sub_baseline (hden : s.times.denominator ≠ 0) :
    2 * ((s.times.numerator : ℚ) / s.times.denominator) - s.onward * s.listener.meanRate s.responder =
      (s.toResponder - s.direct + 2 * s.responder.antenna : Int) * s.listener.meanRate s.responder := by
  rw [s.twice_ratio_times hden, excess]
  push_cast
  ring

-- The distance of three devices is the excess of the detour. The blinks' times, the epochs and the
-- listener's antenna cancel, and no reading of the initiator's clock enters.
theorem excess_exact (clockHz : Float) (hexact : s.times.Exact) :
    s.times =
      { t1 := s.listener.epoch + s.listener.rate * (s.firstBlink + s.direct + s.listener.antenna)
        t2 := s.responder.epoch + s.responder.rate * (s.firstBlink + s.toResponder + s.responder.antenna)
        t3 := s.responder.epoch + s.responder.rate * (s.secondBlink - s.responder.antenna)
        t4 := s.listener.epoch + s.listener.rate * (s.secondBlink + s.onward + s.listener.antenna)
        t5 := s.listener.epoch + s.listener.rate * (s.thirdBlink + s.direct + s.listener.antenna)
        t6 := s.responder.epoch + s.responder.rate * (s.thirdBlink + s.toResponder + s.responder.antenna) } ∧
    s.times.numerator * (s.listener.rate + s.responder.rate) =
      s.listener.rate * s.responder.rate * (s.toResponder + s.onward - s.direct + 2 * s.responder.antenna)
        * s.times.denominator ∧
    (s.times.denominator ≠ 0 →
      2 * ((s.times.numerator : ℚ) / s.times.denominator) =
        (s.toResponder + s.onward - s.direct + 2 * s.responder.antenna : Int) * s.listener.meanRate s.responder ∧
      2 * ((s.times.numerator : ℚ) / s.times.denominator) - s.onward * s.listener.meanRate s.responder =
        (s.toResponder - s.direct + 2 * s.responder.antenna : Int) * s.listener.meanRate s.responder ∧
      s.times.tofRatio = some (.ok (Binary64.ofInt s.times.numerator / Binary64.ofInt s.times.denominator))) ∧
    (s.times.denominator ≠ 0 → s.times.t62 ≠ 0 →
      ∃ e, s.times.estimate clockHz = some (.ok e) ∧ ∀ (c : Float) (baseline : Option Float),
        e.threeWay c baseline =
          2.0 * (Binary64.ofInt s.times.numerator / Binary64.ofInt s.times.denominator / clockHz) * c
            - baseline.getD 0.0) := by
  refine ⟨s.times_eq, s.numerator_times, ?ratio, ?distance⟩
  case ratio =>
    intro hden
    exact ⟨s.twice_ratio_times hden, s.twice_ratio_sub_baseline hden, TwrTimestamps.tofRatio_eq hexact hden⟩
  case distance =>
    intro hden hspan
    refine ⟨_, TwrTimestamps.estimate_eq hexact hden hspan clockHz, ?_⟩
    intro c baseline
    rfl

-- The responder is far off the direct way, and the clocks run apart by fifty parts in a million.
def detour : ThreeWayScene := ⟨⟨999980, 4, 6⟩, ⟨1000030, 9, 2⟩, 0, 12300, 31100, 100, 110, 50⟩

theorem excess_exact_detour :
    detour.times.denominator ≠ 0 ∧
    2 * ((detour.times.numerator : ℚ) / detour.times.denominator) =
      (100 + 110 - 50 + 2 * 2 : Int) * detour.listener.meanRate detour.responder ∧
    ∃ e, detour.times.estimate radioClockHz = some (.ok e) := by
  have hden : detour.times.denominator ≠ 0 := by decide
  obtain ⟨_, _, hratio, hdistance⟩ := excess_exact detour radioClockHz (by decide)
  obtain ⟨e, he, _⟩ := hdistance hden (by decide)
  exact ⟨hden, (hratio hden).1, e, he⟩

end ThreeWayScene

end UwbRanging
