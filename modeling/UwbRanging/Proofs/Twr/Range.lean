import UwbRanging.Engine.Attempt
import UwbRanging.Proofs.Frame.Timestamp
import UwbRanging.Proofs.Twr.Counter
import UwbRanging.Proofs.Twr.Exactness

namespace UwbRanging

namespace TwrTimestamps

-- The times of either clock are less than `span` apart.
structure Near (span : Nat) (t : TwrTimestamps) : Prop where
  t41 : t.t41.natAbs < span
  t54 : t.t54.natAbs < span
  t51 : t.t51.natAbs < span
  t32 : t.t32.natAbs < span
  t63 : t.t63.natAbs < span
  t62 : t.t62.natAbs < span

theorem near_ofHires {t1 t2 t3 t4 t5 t6 : Nat} (h1 : t1 < 2 ^ 96) (h2 : t2 < 2 ^ 96) (h3 : t3 < 2 ^ 96)
    (h4 : t4 < 2 ^ 96) (h5 : t5 < 2 ^ 96) (h6 : t6 < 2 ^ 96) : (ofHires t1 t2 t3 t4 t5 t6).Near (2 ^ 96) := by
  have hwrap : ∀ n : Nat, n < 2 ^ 96 → wrap128 n = n := fun n hn =>
    wrap128_of_fits (fits128_iff.mpr (by omega))
  unfold ofHires
  rw [hwrap t1 h1, hwrap t2 h2, hwrap t3 h3, hwrap t4 h4, hwrap t5 h5, hwrap t6 h6]
  constructor <;> simp only [TwrTimestamps.t41, TwrTimestamps.t54, TwrTimestamps.t51, TwrTimestamps.t32,
    TwrTimestamps.t63, TwrTimestamps.t62] <;> omega

theorem near_ofRaw (t1 t2 t3 t4 t5 t6 : UInt64) : (ofRaw t1 t2 t3 t4 t5 t6).Near (2 ^ 40) := by
  have h3 := rawDiff_bounds t3 t2
  have h4 := rawDiff_bounds t4 t1
  have h5 := rawDiff_bounds t5 t1
  have h6 := rawDiff_bounds t6 t2
  unfold ofRaw
  constructor <;> simp only [TwrTimestamps.t41, TwrTimestamps.t54, TwrTimestamps.t51, TwrTimestamps.t32,
    TwrTimestamps.t63, TwrTimestamps.t62] <;> omega

variable {t : TwrTimestamps}

theorem Near.mono {span wide : Nat} (h : t.Near span) (hle : span ≤ wide) : t.Near wide where
  t41 := Nat.lt_of_lt_of_le h.t41 hle
  t54 := Nat.lt_of_lt_of_le h.t54 hle
  t51 := Nat.lt_of_lt_of_le h.t51 hle
  t32 := Nat.lt_of_lt_of_le h.t32 hle
  t63 := Nat.lt_of_lt_of_le h.t63 hle
  t62 := Nat.lt_of_lt_of_le h.t62 hle

theorem fits128_of_natAbs_lt {n : Int} (h : n.natAbs < 2 ^ 127) : fits128 n = true :=
  fits128_iff.mpr (by omega)

theorem Near.sums_fit (h : t.Near (2 ^ 96)) : ∀ n ∈ t.sums, fits128 n = true := by
  obtain ⟨h41, h54, h51, h32, h63, h62⟩ := h
  intro n hn
  apply fits128_of_natAbs_lt
  simp only [sums, denominator, naiveSum, List.mem_cons, List.not_mem_nil, or_false] at hn
  omega

theorem natAbs_mul_lt {a b : Int} {span : Nat} (ha : a.natAbs < span) (hb : b.natAbs < span) :
    (a * b).natAbs < span * span := by
  rw [Int.natAbs_mul]
  exact Nat.mul_lt_mul'' ha hb

theorem Near.exact (h : t.Near (2 ^ 40)) : t.Exact := by
  have hfirst := natAbs_mul_lt h.t41 h.t63
  have hsecond := natAbs_mul_lt h.t32 h.t54
  refine ⟨(h.mono (by decide)).sums_fit, fits128_of_natAbs_lt ?_, fits128_of_natAbs_lt ?_, fits128_of_natAbs_lt ?_⟩
  · omega
  · omega
  · rw [numerator]
    omega

-- Words of the same sign are no more than a word apart.
theorem fits128_sub {a b : Int} (ha : fits128 a = true) (hb : fits128 b = true) (hsign : a < 0 ↔ b < 0) :
    fits128 (a - b) = true := by
  rw [fits128_iff] at *
  omega

-- The estimate as it is in integers of any size, in which no sum is too wide.
def unboundedRatio (t : TwrTimestamps) : Except RangingError Float :=
  if t.denominator = 0 then .error .degenerateTiming else .ok (t.numeratorFloat / Binary64.ofInt t.denominator)

def unboundedPpm (t : TwrTimestamps) : Except RangingError Float :=
  if t.t62 = 0 then .error .degenerateTiming
  else .ok (Binary64.ofInt (t.t62 - t.t51) / Binary64.ofInt t.t62 * 1e6)

def unboundedEstimate (t : TwrTimestamps) (clockHz : Float) : Except RangingError TwrEstimate := do
  let counts ← t.unboundedRatio
  let ppm ← t.unboundedPpm
  return ⟨counts, counts / clockHz, ppm, Binary64.ofInt t.t41 / clockHz⟩

theorem unboundedEstimate_eq (t : TwrTimestamps) (clockHz : Float) : t.unboundedEstimate clockHz =
    if t.denominator = 0 ∨ t.t62 = 0 then .error .degenerateTiming
    else .ok {
      tofCounts := t.numeratorFloat / Binary64.ofInt t.denominator
      tofSeconds := t.numeratorFloat / Binary64.ofInt t.denominator / clockHz
      clockPpm := Binary64.ofInt (t.t62 - t.t51) / Binary64.ofInt t.t62 * 1e6
      roundTripSeconds := Binary64.ofInt t.t41 / clockHz } := by
  unfold unboundedEstimate unboundedRatio unboundedPpm
  by_cases hden : t.denominator = 0 <;> by_cases hspan : t.t62 = 0 <;> simp [hden, hspan, bind, Except.bind, pure,
    Except.pure]

structure Carried (t : TwrTimestamps) : Prop where
  -- Whatever the order of the times, all sums fit but the difference of the two products.
  sums : ∀ n ∈ t.sums, fits128 n = true
  -- that one stops the estimate if it is taken and does not fit
  stops : ∀ clockHz, t.estimate clockHz = none ↔ t.Overflows
  -- which happens only for products of different signs
  signs : t.Overflows → (t.t41 * t.t63 < 0 ↔ 0 ≤ t.t32 * t.t54)
  -- and not as long as each clock's times are in order
  ordered : t.t1 ≤ t.t4 → t.t4 ≤ t.t5 → t.t2 ≤ t.t3 → t.t3 ≤ t.t6 → ¬ t.Overflows
  -- otherwise the words do not show
  estimate : ¬ t.Overflows → ∀ clockHz, t.estimate clockHz = some (t.unboundedEstimate clockHz)
  clockPpm : t.clockPpm = some t.unboundedPpm
  naiveTof : t.naiveTof = some (Binary64.ofInt t.naiveSum / 4.0)

theorem Near.carried (h : t.Near (2 ^ 96)) : t.Carried where
  sums := h.sums_fit
  stops clockHz := by
    rw [estimate_of_sums h.sums_fit]
    by_cases hover : t.Overflows
    · exact iff_of_true (if_pos hover) hover
    · rw [if_neg hover]
      refine iff_of_false ?_ hover
      split <;> exact nofun
  signs hover := by
    obtain ⟨-, hfirst, hsecond, hwide⟩ := hover
    have hsign : ¬ (t.t41 * t.t63 < 0 ↔ t.t32 * t.t54 < 0) := fun hsign => by
      rw [numerator, fits128_sub hfirst hsecond hsign] at hwide
      cases hwide
    omega
  ordered h14 h45 h23 h36 hover := by
    obtain ⟨-, hfirst, hsecond, hwide⟩ := hover
    have hround : 0 ≤ t.t41 * t.t63 := Int.mul_nonneg (Int.sub_nonneg.mpr h14) (Int.sub_nonneg.mpr h36)
    have hreply : 0 ≤ t.t32 * t.t54 := Int.mul_nonneg (Int.sub_nonneg.mpr h23) (Int.sub_nonneg.mpr h45)
    rw [numerator, fits128_sub hfirst hsecond (by omega)] at hwide
    cases hwide
  estimate hfits clockHz := by
    rw [estimate_of_sums h.sums_fit, if_neg hfits, unboundedEstimate_eq]
    split <;> rfl
  clockPpm := by
    rw [clockPpm_of_sums h.sums_fit, unboundedPpm]
    split <;> rfl
  naiveTof := naiveTof_of_sums h.sums_fit

end TwrTimestamps

-- The times of an attempt have 96 bits, or 40 on the radio counter.
theorem SlotRecords.times_near (r : SlotRecords) (source : TimestampSource) :
    (r.times source).Near (2 ^ 96) ∧ (source = .raw → (r.times source).Near (2 ^ 40)) := by
  cases source with
  | raw =>
    have hnear : (r.times .raw).Near (2 ^ 40) := TwrTimestamps.near_ofRaw ..
    exact ⟨hnear.mono (by decide), fun _ => hnear⟩
  | hires =>
    have hnear : (r.times .hires).Near (2 ^ 96) := TwrTimestamps.near_ofHires (Hires.value_lt _) (Hires.value_lt _)
      (Hires.value_lt _) (Hires.value_lt _) (Hires.value_lt _) (Hires.value_lt _)
    exact ⟨hnear, nofun⟩

-- On the radio counter nothing is ever too wide.
theorem SlotRecords.times_carried (r : SlotRecords) (source : TimestampSource) :
    (r.times source).Carried ∧ (source = .raw → ¬ (r.times source).Overflows) := by
  obtain ⟨hnear, hraw⟩ := r.times_near source
  exact ⟨hnear.carried, fun hsource => (hraw hsource).exact.not_overflows⟩

namespace TwrTimestamps

-- Times of no more than 65 bits. The second clock shows its answer before what it answers, and the
-- products are just short of 2^127 and just as far as -2^127.
def misordered : TwrTimestamps :=
  ofHires 0 (2 ^ 63) 0 (2 ^ 63) (2 ^ 64 + 2 ^ 63) (2 ^ 64 - 1)

theorem overflows_misordered :
    misordered.denominator = 2 ^ 65 - 1 ∧ misordered.t41 * misordered.t63 = 2 ^ 127 - 2 ^ 63 ∧
    misordered.t32 * misordered.t54 = -2 ^ 127 ∧ misordered.numerator = 2 ^ 128 - 2 ^ 63 ∧ misordered.Overflows ∧
    misordered.tofRatio = none ∧ ∀ clockHz, misordered.estimate clockHz = none := by
  have hnear : misordered.Near (2 ^ 96) := near_ofHires (by decide) (by decide) (by decide) (by decide) (by decide)
    (by decide)
  have hover : misordered.Overflows := by decide
  have hratio : misordered.tofRatio = none := by rw [tofRatio_of_sums hnear.sums_fit, if_pos hover]
  exact ⟨by decide, by decide, by decide, by decide, hover, hratio,
    fun clockHz => (hnear.carried.stops clockHz).mpr hover⟩

end TwrTimestamps

end UwbRanging
