import Mathlib.Data.Nat.Bitwise
import UwbRanging.Twr.Estimate

namespace UwbRanging

section Difference

variable (later earlier : UInt64)

theorem toNat_masked_sub : (((later - earlier) &&& counterMask).toNat : Int) =
    ((later.toNat : Int) - earlier.toNat) % counterRange := by
  have hmask : counterMask.toNat = 2 ^ 40 - 1 := rfl
  have hlater := later.toNat_lt
  have hearlier := earlier.toNat_lt
  rw [UInt64.toNat_and, hmask, Nat.and_two_pow_sub_one_eq_mod, UInt64.toNat_sub]
  unfold counterRange
  omega

-- The highest bit of a count is set in the upper half of all counts.
theorem sign_ne_zero_iff {d : UInt64} (hd : d.toNat < counterRange) : d &&& 0x8000000000 ≠ 0 ↔ 2 ^ 39 ≤ d.toNat := by
  have hsign : (0x8000000000 : UInt64).toNat = 2 ^ 39 := rfl
  have hbit : d.toNat.testBit 39 = decide (2 ^ 39 ≤ d.toNat) := by
    rw [Nat.testBit_eq_decide_div_mod_eq]
    unfold counterRange at hd
    exact decide_eq_decide.mpr (by omega)
  rw [ne_eq, ← UInt64.toNat_inj, UInt64.toNat_and, hsign, Nat.and_two_pow, hbit]
  simp

-- Of all numbers that lead from one count to the other, the difference is the one nearest to zero.
theorem rawDiff_eq_bmod : rawDiff later earlier = ((later.toNat : Int) - earlier.toNat).bmod counterRange := by
  have hmasked := toNat_masked_sub later earlier
  have hlt := Int.emod_lt_of_pos ((later.toNat : Int) - earlier.toNat) (by decide : 0 < (counterRange : Int))
  have hsign := sign_ne_zero_iff (d := (later - earlier) &&& counterMask) (by omega)
  rw [rawDiff, Int.bmod_def, ← hmasked]
  by_cases hhigh : 2 ^ 39 ≤ ((later - earlier) &&& counterMask).toNat
  · rw [if_pos (hsign.mpr hhigh), if_neg]
    unfold counterRange
    omega
  · rw [if_neg (hsign.not.mpr hhigh), if_pos]
    unfold counterRange
    omega

theorem rawDiff_self : rawDiff later later = 0 := by
  rw [rawDiff_eq_bmod, Int.sub_self, Int.zero_bmod]

theorem rawDiff_bounds : -2 ^ 39 ≤ rawDiff later earlier ∧ rawDiff later earlier < 2 ^ 39 := by
  have hlow := Int.le_bmod (x := (later.toNat : Int) - earlier.toNat) (m := counterRange) (by decide)
  have hhigh := Int.bmod_lt (x := (later.toNat : Int) - earlier.toNat) (m := counterRange) (by decide)
  rw [rawDiff_eq_bmod]
  unfold counterRange at *
  omega

end Difference

-- A word shows a count if its lower 40 bits do, whatever stands above them.
def ShowsCount (word : UInt64) (count : Int) : Prop := (word.toNat : Int) % counterRange = count % counterRange

instance (word : UInt64) (count : Int) : Decidable (ShowsCount word count) := inferInstanceAs (Decidable (_ = _))

section Counts

variable {later earlier later' earlier' : UInt64} {m n : Int}

theorem rawDiff_of_showsCount (hlater : ShowsCount later m) (hearlier : ShowsCount earlier n) :
    rawDiff later earlier = (m - n).bmod counterRange := by
  unfold ShowsCount at *
  rw [rawDiff_eq_bmod, ← Int.emod_sub_bmod, ← Int.sub_emod_bmod, hlater, hearlier, Int.sub_emod_bmod,
    Int.emod_sub_bmod]

-- Counts that are less than half a round apart are told apart as they are, however often the counter has wrapped.
theorem rawDiff_of_near (hlater : ShowsCount later m) (hearlier : ShowsCount earlier n) (hlow : -2 ^ 39 ≤ m - n)
    (hhigh : m - n < 2 ^ 39) : rawDiff later earlier = m - n := by
  rw [rawDiff_of_showsCount hlater hearlier]
  exact Int.bmod_eq_of_le hlow hhigh

end Counts

end UwbRanging
