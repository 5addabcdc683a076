import UwbRanging.Decimal.Binary64

namespace UwbRanging.Binary64

open Float.Model (UnpackedFloat)
open Float.Model.Format (binary64)
open Float.Model.UnpackedFloat

section Packed

-- A finite number whose exponent has a place in the packed form.
def Fits : UnpackedFloat → Prop
  | .zero _ => True
  | .finite _ _ exponent _ => exponent < 972
  | _ => False

variable {b : BitVec binary64.numBits}

theorem isFinite_unpack_of_ne (h : unpackExponent b ≠ -1#_) : (unpack binary64 b).isFinite = true := by
  unfold unpack
  dsimp only
  rw [if_neg h]
  by_cases hexponent : unpackExponent b = 0#_
  · rw [if_pos hexponent]
    by_cases hmantissa : unpackMantissa b = 0#_
    · rw [dif_pos hmantissa]
      rfl
    · rw [dif_neg hmantissa]
      rfl
  · rw [if_neg hexponent]
    rfl

theorem isFinite_unpack_of_eq (h : unpackExponent b = -1#_) : (unpack binary64 b).isFinite = false := by
  unfold unpack
  dsimp only
  rw [if_pos h]
  split <;> rfl

theorem fits_unpack (h : (unpack binary64 b).isFinite = true) : Fits (unpack binary64 b) := by
  have hbias : binary64.exponentBias = 1023 := rfl
  have hlt : (unpackExponent b).toNat < 2 ^ 11 := (unpackExponent b).isLt
  have hexponent : unpackExponent b ≠ -1#_ := fun heq => by simp [isFinite_unpack_of_eq heq] at h
  have hmax : (unpackExponent b).toNat ≠ 2047 := fun heq => hexponent (BitVec.eq_of_toNat_eq heq)
  unfold unpack
  dsimp only
  rw [if_neg hexponent]
  by_cases hzero : unpackExponent b = 0#_
  · rw [if_pos hzero]
    by_cases hmantissa : unpackMantissa b = 0#_
    · rw [dif_pos hmantissa]
      trivial
    · rw [dif_neg hmantissa, hzero]
      change (((0#11).toNat : Int) - (1023 + 52) + 1 : Int) < 972
      decide
  · rw [if_neg hzero]
    change ((unpackExponent b).toNat : Int) - (1023 + 52) < 972
    omega

theorem isFinite_repack {f : UnpackedFloat} (h : Fits f) : (unpack binary64 (pack binary64 f)).isFinite = true := by
  apply isFinite_unpack_of_ne
  fun_cases pack binary64 f with
  | case1 => exact h.elim
  | case2 sign => exact h.elim
  | case3 sign =>
    rw [packedZero, unpackExponent_packComponents]
    decide
  | case4 sign significand exponent hpos biased hlarge =>
    have hoverflow : 2048 ≤ (exponent + (1023 : Nat) + (52 : Nat)).toNat + 1 := hlarge
    have hexponent : exponent < 972 := h
    omega
  | case5 sign significand exponent hpos _ biased hfinite =>
    have hbiased : ¬ 2048 ≤ biased + 1 := hfinite
    rw [unpackExponent_packComponents]
    intro hspecial
    have hval : biased % 2048 = 2047 := congrArg BitVec.toNat hspecial
    omega
  | case6 sign significand exponent hpos _ biased _ hsubnormal =>
    rw [unpackExponent_packComponents]
    decide

theorem not_isFinite_repack {f : UnpackedFloat} (h : f.isFinite = false) :
    (unpack binary64 (pack binary64 f)).isFinite = false := by
  apply isFinite_unpack_of_eq
  cases f with
  | notANumber => exact unpackExponent_packComponents
  | infinity sign => exact unpackExponent_packComponents
  | zero sign => cases h
  | finite sign significand exponent hpos => cases h

theorem unpack_packedZero (sign : Sign) : unpack binary64 (packedZero binary64 sign) = .zero sign := by
  cases sign <;> rfl

end Packed

section Unpacked

variable {f g : UnpackedFloat}

-- Of two finite numbers either tells how they compare.
theorem compare_swap (hf : f.isFinite = true) (hg : g.isFinite = true) :
    ∃ o : Ordering, f.compare g = some o ∧ g.compare f = some o.swap := by
  cases f with
  | notANumber => cases hf
  | infinity sign => cases hf
  | zero sign =>
    cases g with
    | notANumber => cases hg
    | infinity sign' => cases hg
    | zero sign' => exact ⟨.eq, rfl, rfl⟩
    | finite sign' significand' exponent' _ => cases sign' <;> exact ⟨_, rfl, rfl⟩
  | finite sign significand exponent _ =>
    cases g with
    | notANumber => cases hg
    | infinity sign' => cases hg
    | zero sign' => cases sign <;> exact ⟨_, rfl, rfl⟩
    | finite sign' significand' exponent' _ =>
      have hswap : ((compare exponent exponent').then (compare significand significand')).swap =
          (compare exponent' exponent).then (compare significand' significand) := by
        rw [Ordering.swap_then, Int.compare_swap, Nat.compare_swap]
      cases sign <;> cases sign'
      · exact ⟨_, rfl, by rw [hswap]; rfl⟩
      · exact ⟨_, rfl, rfl⟩
      · exact ⟨_, rfl, rfl⟩
      · exact ⟨_, rfl, by rw [hswap]; rfl⟩

theorem sub_not_finite (hg : g.isFinite = false) : (UnpackedFloat.sub binary64 f g).isFinite = false := by
  cases g with
  | notANumber => cases f <;> rfl
  | infinity sign =>
    cases f with
    | infinity sign' => cases sign <;> cases sign' <;> rfl
    | _ => rfl
  | zero sign => cases hg
  | finite sign significand exponent hpos => cases hg

theorem fits_zero_sub (sign : Sign) (hg : Fits g) : Fits (UnpackedFloat.sub binary64 (.zero sign) g) := by
  cases g with
  | notANumber => exact hg
  | infinity sign' => exact hg
  | zero sign' => cases sign <;> cases sign' <;> trivial
  | finite sign' significand exponent hpos => exact hg

theorem zero_mul (sign : Sign) (hg : g.isFinite = true) :
    ∃ sign', UnpackedFloat.mul binary64 (.zero sign) g = .zero sign' := by
  cases g with
  | notANumber => cases hg
  | infinity sign' => cases hg
  | zero sign' => exact ⟨sign * sign', rfl⟩
  | finite sign' significand exponent hpos => exact ⟨sign * sign', rfl⟩

end Unpacked

section Number

variable {x y : Float}

theorem lt_iff_compare : x < y ↔ x.toModel.unpack.compare y.toModel.unpack = some .lt := by
  change decide (x.toModel < y.toModel) = true ↔ _
  rw [decide_eq_true_iff]
  exact beq_iff_eq

theorem le_iff_compare : x ≤ y ↔ (x.toModel.unpack.compare y.toModel.unpack).any (·.isLE) := by
  change decide (x.toModel ≤ y.toModel) = true ↔ _
  rw [decide_eq_true_iff]
  rfl

theorem not_le_iff_lt (hx : x.isFinite) (hy : y.isFinite) : ¬ y ≤ x ↔ x < y := by
  obtain ⟨o, hlt, hle⟩ := compare_swap hx hy
  rw [le_iff_compare, lt_iff_compare, hlt, hle]
  cases o <;> decide

-- Zero of either sign.
def IsZero (x : Float) : Prop := ∃ sign, x.toModel.unpack = .zero sign

theorem isZero_zero : IsZero 0.0 := ⟨.positive, rfl⟩

theorem IsZero.mul (hx : IsZero x) (hy : y.isFinite) : IsZero (x * y) := by
  obtain ⟨sign, hsign⟩ := hx
  obtain ⟨sign', hproduct⟩ := zero_mul sign hy
  refine ⟨sign', ?_⟩
  change unpack binary64 (pack binary64 (UnpackedFloat.mul binary64 x.toModel.unpack y.toModel.unpack)) = _
  rw [hsign, hproduct]
  exact unpack_packedZero sign'

theorem IsZero.isFinite (hx : IsZero x) : x.isFinite := by
  obtain ⟨sign, hsign⟩ := hx
  change x.toModel.unpack.isFinite = true
  rw [hsign]
  rfl

theorem IsZero.isFinite_sub (hx : IsZero x) (hy : y.isFinite) : (x - y).isFinite := by
  obtain ⟨sign, hsign⟩ := hx
  change (unpack binary64
    (pack binary64 (UnpackedFloat.sub binary64 x.toModel.unpack y.toModel.unpack))).isFinite = true
  rw [hsign]
  exact isFinite_repack (fits_zero_sub sign (fits_unpack hy))

-- What is taken from a number leaves one only if it is one.
theorem isFinite_of_isFinite_sub (h : (x - y).isFinite) : y.isFinite := by
  cases hy : y.isFinite with
  | true => rfl
  | false =>
    have hsub : (x - y).isFinite = false := not_isFinite_repack (sub_not_finite hy)
    rw [hsub] at h
    cases h

end Number

end UwbRanging.Binary64
