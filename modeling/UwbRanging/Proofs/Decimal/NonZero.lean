import Mathlib.Algebra.Group.Nat.Defs
import UwbRanging.Decimal.Binary64

namespace UwbRanging.Binary64

open Float.Model (UnpackedFloat)
open Float.Model.Format (binary64)
open Float.Model.UnpackedFloat

-- A number other than zero in a form that does not lose its digits when it is packed.
def Significant : UnpackedFloat → Prop
  | .zero _ => False
  | .finite _ significand exponent _ => significand < 2 ^ 53 ∧ -1074 ≤ exponent
  | _ => True

theorem significant_neg {f : UnpackedFloat} (h : Significant f) : Significant f.neg := by
  cases f <;> exact h

section Bits

variable {b : BitVec binary64.numBits}

theorem significant_unpack (h : ¬ (unpackExponent b = 0#_ ∧ unpackMantissa b = 0#_)) :
    Significant (unpack binary64 b) := by
  have hbias : binary64.exponentBias = 1023 := rfl
  have hlt : (unpackMantissa b).toNat < 2 ^ 52 := (unpackMantissa b).isLt
  unfold unpack
  dsimp only
  by_cases hspecial : unpackExponent b = -1#_
  · rw [if_pos hspecial]
    by_cases hinfinite : unpackMantissa b = 0#_
    · rw [if_pos hinfinite]
      trivial
    · rw [if_neg hinfinite]
      trivial
  rw [if_neg hspecial]
  by_cases hexponent : unpackExponent b = 0#_
  · have hmantissa : unpackMantissa b ≠ 0#_ := fun hmantissa => h ⟨hexponent, hmantissa⟩
    rw [if_pos hexponent, dif_neg hmantissa]
    exact ⟨by omega, by omega⟩
  · have hpos : (unpackExponent b).toNat ≠ 0 := fun hzero => hexponent (BitVec.eq_of_toNat_eq hzero)
    rw [if_neg hexponent]
    exact ⟨(1#1 ++ unpackMantissa b).isLt, by omega⟩

theorem significant_repack {f : UnpackedFloat} (h : Significant f) :
    Significant (unpack binary64 (pack binary64 f)) := by
  apply significant_unpack
  fun_cases pack binary64 f with
  | case1 => exact fun hzero => absurd hzero.1 (by decide)
  | case2 sign =>
    rw [packedInfinity, unpackExponent_packComponents]
    exact fun hzero => absurd hzero.1 (by decide)
  | case3 sign => exact h.elim
  | case4 sign significand exponent =>
    rw [packedInfinity, unpackExponent_packComponents]
    exact fun hzero => absurd hzero.1 (by decide)
  | case5 sign significand exponent hpos _ biased hfinite =>
    have hbiased : biased = (exponent + (1023 : Nat) + (52 : Nat)).toNat := rfl
    have hlow : -1074 ≤ exponent := h.2
    rw [unpackExponent_packComponents]
    rintro ⟨hexponent, -⟩
    have hval := congrArg BitVec.toNat hexponent
    rw [BitVec.toNat_ofNat, BitVec.toNat_ofNat, Nat.mod_eq_of_lt (by omega), Nat.zero_mod] at hval
    omega
  | case6 sign significand exponent hpos _ biased _ hsubnormal =>
    have hlog : significand.log2 < 53 := (Nat.log2_lt (by omega)).mpr h.1
    have hwidth : binary64.mantissaBits = 53 := rfl
    have hsmall : significand < 2 ^ 52 := (Nat.log2_lt (by omega)).mp (by omega)
    rw [unpackMantissa_packComponents]
    rintro ⟨-, hmantissa⟩
    have hval := congrArg BitVec.toNat hmantissa
    rw [BitVec.toNat_ofNat, BitVec.toNat_ofNat, Nat.mod_eq_of_lt hsmall, Nat.zero_mod] at hval
    omega

end Bits

-- Of the numbers below infinity only the one without any bits is zero.
theorem significant_ofBits {bits : UInt64} (hpos : bits ≠ 0) (hlt : bits.toNat < 2 ^ 63) :
    Significant (Float.ofBits bits).toModel.unpack := by
  refine significant_repack (significant_unpack ?_)
  rintro ⟨hexponent, hmantissa⟩
  have hhigh := congrArg BitVec.toNat hexponent
  have hlow := congrArg BitVec.toNat hmantissa
  change (bits.toNat >>> 52) % 2 ^ 11 = 0 at hhigh
  change (bits.toNat >>> 0) % 2 ^ 52 = 0 at hlow
  rw [Nat.shiftRight_eq_div_pow] at hhigh hlow
  exact hpos (UInt64.toNat_inj.mp (by rw [UInt64.toNat_zero]; omega))

theorem significant_neg_float {x : Float} (h : Significant x.toModel.unpack) : Significant (-x).toModel.unpack :=
  significant_repack (significant_neg h)

-- What is significant does not equal zero of either sign.
theorem beq_zero_of_significant {x : Float} (h : Significant x.toModel.unpack) : (x == 0.0) = false := by
  have hzero : (0.0 : Float).toModel.unpack = .zero .positive := rfl
  change (x.toModel.unpack.compare (0.0 : Float).toModel.unpack == some .eq) = false
  rw [hzero]
  cases hx : x.toModel.unpack with
  | zero sign => exact (hx ▸ h : Significant (.zero sign)).elim
  | infinity sign => cases sign <;> rfl
  | notANumber => rfl
  | finite sign significand exponent hpos => cases sign <;> rfl

theorem gridExponent_natural (n : Nat) : -53 ≤ gridExponent n 1 := by
  have hone : Nat.log2 1 = 0 := by decide
  unfold gridExponent
  dsimp only
  rw [hone]
  split <;> omega

theorem nearestBits_natural {n : Nat} (hn : n ≠ 0) : 0 < nearestBits n 1 ∧ nearestBits n 1 ≤ infinityBits := by
  have hgrid := gridExponent_natural n
  have hexponent : 0 < (gridExponent n 1 + 1074).toNat := by omega
  rw [nearestBits, if_neg hn]
  exact ⟨Nat.lt_min.mpr ⟨Nat.add_pos_left (Nat.mul_pos hexponent (by decide)) _, by decide⟩, Nat.min_le_right _ _⟩

-- An integer other than zero does not become zero as a float.
theorem ofInt_ne_zero {n : Int} (hn : n ≠ 0) : (ofInt n == 0.0) = false := by
  obtain ⟨hpos, hle⟩ := nearestBits_natural (Int.natAbs_ne_zero.mpr hn)
  have hlt : nearestBits n.natAbs 1 < 2 ^ 63 := Nat.lt_of_le_of_lt hle (by decide)
  have hbits : (UInt64.ofNat (nearestBits n.natAbs 1)).toNat = nearestBits n.natAbs 1 :=
    UInt64.toNat_ofNat_of_lt' (Nat.lt_trans hlt (by decide))
  have hmagnitude : Significant (ofNat n.natAbs).toModel.unpack := by
    refine significant_ofBits (fun hzero => ?_) (by rwa [hbits])
    rw [hzero, UInt64.toNat_zero] at hbits
    omega
  rw [ofInt]
  split
  · exact beq_zero_of_significant (significant_neg_float hmagnitude)
  · exact beq_zero_of_significant hmagnitude

end UwbRanging.Binary64
