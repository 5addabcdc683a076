import UwbRanging.Proofs.Twr.Range

namespace UwbRanging

namespace TwrTimestamps

-- Six words show the counts of an attempt.
structure Shown (u : TwrTimestamps) (w1 w2 w3 w4 w5 w6 : UInt64) : Prop where
  t1 : ShowsCount w1 u.t1
  t2 : ShowsCount w2 u.t2
  t3 : ShowsCount w3 u.t3
  t4 : ShowsCount w4 u.t4
  t5 : ShowsCount w5 u.t5
  t6 : ShowsCount w6 u.t6

-- All counts of a clock are within half a round of its first one.
structure InReach (u : TwrTimestamps) : Prop where
  t41 : -2 ^ 39 ≤ u.t41 ∧ u.t41 < 2 ^ 39
  t51 : -2 ^ 39 ≤ u.t51 ∧ u.t51 < 2 ^ 39
  t32 : -2 ^ 39 ≤ u.t32 ∧ u.t32 < 2 ^ 39
  t62 : -2 ^ 39 ≤ u.t62 ∧ u.t62 < 2 ^ 39

-- Two sets of times are the same for all that is computed from them.
structure Alike (t u : TwrTimestamps) : Prop where
  intervals : t.intervals = u.intervals
  tofRatio : t.tofRatio = u.tofRatio
  naiveTof : t.naiveTof = u.naiveTof
  clockPpm : t.clockPpm = u.clockPpm
  estimate : ∀ clockHz, t.estimate clockHz = u.estimate clockHz

variable {t u : TwrTimestamps} {w1 w2 w3 w4 w5 w6 : UInt64}

-- Times count only for their intervals.
theorem alike_of_intervals (h : t.intervals = u.intervals) (hround : t.t41 = u.t41) : t.Alike u := by
  have hratio : t.tofRatio = u.tofRatio := by rw [tofRatio, tofRatio, h]
  have hppm : t.clockPpm = u.clockPpm := by rw [clockPpm, clockPpm, h]
  refine ⟨h, hratio, ?_, hppm, fun clockHz => ?_⟩
  · rw [naiveTof, naiveTof, h]
  · rw [estimate, estimate, hratio, hppm, hround]

theorem InReach.near (h : u.InReach) : u.Near (2 ^ 40) := by
  obtain ⟨h41, h51, h32, h62⟩ := h
  constructor <;> simp only [TwrTimestamps.t41, TwrTimestamps.t54, TwrTimestamps.t51, TwrTimestamps.t32,
    TwrTimestamps.t63, TwrTimestamps.t62] at * <;> omega

theorem Near.intervals_eq {span : Nat} (h : u.Near span) (hspan : span ≤ 2 ^ 96) :
    u.intervals = some ⟨u.t41, u.t32, u.t54, u.t63, u.t51, u.t62⟩ :=
  TwrTimestamps.intervals_eq (h.mono hspan).sums_fit

theorem ofRaw_of_shown (h : u.Shown w1 w2 w3 w4 w5 w6) : ofRaw w1 w2 w3 w4 w5 w6 =
    ⟨0, 0, u.t32.bmod counterRange, u.t41.bmod counterRange, u.t51.bmod counterRange, u.t62.bmod counterRange⟩ := by
  rw [ofRaw, rawDiff_of_showsCount h.t3 h.t2, rawDiff_of_showsCount h.t4 h.t1, rawDiff_of_showsCount h.t5 h.t1,
    rawDiff_of_showsCount h.t6 h.t2]
  rfl

-- Words show what they hold.
theorem shown_toNat (w1 w2 w3 w4 w5 w6 : UInt64) :
    Shown ⟨w1.toNat, w2.toNat, w3.toNat, w4.toNat, w5.toNat, w6.toNat⟩ w1 w2 w3 w4 w5 w6 :=
  ⟨rfl, rfl, rfl, rfl, rfl, rfl⟩

-- Counts in reach of each other are unwrapped to what they are, less the first one of their clock.
theorem InReach.ofRaw_eq (hreach : u.InReach) (hshown : u.Shown w1 w2 w3 w4 w5 w6) :
    ofRaw w1 w2 w3 w4 w5 w6 = ⟨0, 0, u.t32, u.t41, u.t51, u.t62⟩ := by
  rw [ofRaw, rawDiff_of_near hshown.t3 hshown.t2 hreach.t32.1 hreach.t32.2,
    rawDiff_of_near hshown.t4 hshown.t1 hreach.t41.1 hreach.t41.2,
    rawDiff_of_near hshown.t5 hshown.t1 hreach.t51.1 hreach.t51.2,
    rawDiff_of_near hshown.t6 hshown.t2 hreach.t62.1 hreach.t62.2]
  rfl

theorem InReach.intervals_ofRaw (hreach : u.InReach) (hshown : u.Shown w1 w2 w3 w4 w5 w6) :
    (ofRaw w1 w2 w3 w4 w5 w6).intervals = u.intervals := by
  have hraw := near_ofRaw w1 w2 w3 w4 w5 w6
  have h54 : u.t51 - u.t41 = u.t54 := sub_sub_sub_cancel_right ..
  have h63 : u.t62 - u.t32 = u.t63 := sub_sub_sub_cancel_right ..
  rw [hreach.near.intervals_eq (by decide), hraw.intervals_eq (by decide), hreach.ofRaw_eq hshown, ← h54, ← h63]
  simp only [TwrTimestamps.t41, TwrTimestamps.t32, TwrTimestamps.t54, TwrTimestamps.t63, TwrTimestamps.t51,
    TwrTimestamps.t62, Int.sub_zero]

-- Counters of 40 bits do what counters that never wrap would do, wherever each clock wraps and whatever stands above
-- the counts. And it does not matter from where each clock counts.
theorem ofRaw_unwraps (w1 w2 w3 w4 w5 w6 : UInt64) :
    (∀ u : TwrTimestamps, u.Shown w1 w2 w3 w4 w5 w6 → u.InReach → (ofRaw w1 w2 w3 w4 w5 w6).Alike u ∧
      u.intervals = some ⟨u.t4 - u.t1, u.t3 - u.t2, u.t5 - u.t4, u.t6 - u.t3, u.t5 - u.t1, u.t6 - u.t2⟩) ∧
    ∀ (k1 k2 : Int) (v1 v2 v3 v4 v5 v6 : UInt64),
      Shown ⟨w1.toNat + k1, w2.toNat + k2, w3.toNat + k2, w4.toNat + k1, w5.toNat + k1, w6.toNat + k2⟩
        v1 v2 v3 v4 v5 v6 → ofRaw v1 v2 v3 v4 v5 v6 = ofRaw w1 w2 w3 w4 w5 w6 := by
  refine ⟨fun u hshown hreach => ⟨?_, hreach.near.intervals_eq (by decide)⟩, ?_⟩
  · refine alike_of_intervals (hreach.intervals_ofRaw hshown) ?_
    rw [hreach.ofRaw_eq hshown]
    exact Int.sub_zero _
  · intro k1 k2 v1 v2 v3 v4 v5 v6 hshown
    rw [ofRaw_of_shown hshown, ofRaw_of_shown (shown_toNat w1 w2 w3 w4 w5 w6)]
    simp only [t41, t32, t51, t62, Int.add_sub_add_right]

-- The first clock wraps after its first time, and the last time of the second one is as far back as is in reach. All
-- the words have bits above the count. Then the first clock starts half a round later, and the second one count
-- earlier.
theorem ofRaw_unwraps_bothClocks :
    let u : TwrTimestamps := ⟨2 ^ 40 - 7, 2 ^ 39 - 3, 2 ^ 39 + 40, 2 ^ 40 + 2 ^ 39 - 8, 2 ^ 40 + 5, -3⟩
    let raw := ofRaw 0x123456fffffffff9 0xabcdef7ffffffffd 0x18000000028 0xffffff7ffffffff8 0x8000000000000005
      0x1fffffffffd
    u.Shown 0x123456fffffffff9 0xabcdef7ffffffffd 0x18000000028 0xffffff7ffffffff8 0x8000000000000005
      0x1fffffffffd ∧ u.InReach ∧ raw.Alike u ∧
    u.intervals = some ⟨2 ^ 39 - 1, 43, 13 - 2 ^ 39, -2 ^ 39 - 43, 12, -2 ^ 39⟩ ∧
    ofRaw 0x7ffffffff9 0x7ffffffffc 0x8000000027 0xfffffffff8 0x8000000005 0xfffffffffc = raw := by
  intro u raw
  have hshown : u.Shown 0x123456fffffffff9 0xabcdef7ffffffffd 0x18000000028 0xffffff7ffffffff8 0x8000000000000005
      0x1fffffffffd := ⟨by decide, by decide, by decide, by decide, by decide, by decide⟩
  have hreach : u.InReach := ⟨by decide, by decide, by decide, by decide⟩
  obtain ⟨hunwraps, hshifted⟩ := ofRaw_unwraps 0x123456fffffffff9 0xabcdef7ffffffffd 0x18000000028 0xffffff7ffffffff8
    0x8000000000000005 0x1fffffffffd
  obtain ⟨halike, hintervals⟩ := hunwraps u hshown hreach
  refine ⟨hshown, hreach, halike, hintervals, ?_⟩
  exact hshifted (2 ^ 39) (-1) _ _ _ _ _ _
    ⟨by decide, by decide, by decide, by decide, by decide, by decide⟩

end TwrTimestamps

end UwbRanging
