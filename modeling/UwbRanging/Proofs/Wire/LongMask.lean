import Mathlib.Algebra.Group.Nat.Defs
import UwbRanging.Wire.LongMask
import UwbRanging.Proofs.Wire.Reads

namespace UwbRanging.LongMask

-- Up to eight flags are the bits of their byte, and the bits above them are not set.
theorem testBit_packByte (flags : List Bool) (hlength : flags.length ≤ 8) :
    (packByte flags).toNat < 2 ^ flags.length ∧
      ∀ i, (packByte flags).toNat.testBit i = flags.getD i false := by
  induction flags with
  | nil => exact ⟨by decide, fun i => by simp [packByte]⟩
  | cons flag rest ih =>
    obtain ⟨hlt, hbits⟩ := ih (Nat.le_of_succ_le hlength)
    have hrest : rest.length ≤ 7 := Nat.le_of_succ_le_succ hlength
    have hpow : 2 ^ rest.length ≤ 2 ^ 7 := Nat.pow_le_pow_right (by decide) hrest
    have hflag : flag.toUInt8.toNat = flag.toNat := by cases flag <;> rfl
    have hbound : flag.toNat ≤ 1 := flag.toNat_le
    have hvalue : (packByte (flag :: rest)).toNat = flag.toNat + 2 * (packByte rest).toNat := by
      rw [packByte, UInt8.toNat_add, UInt8.toNat_mul, hflag, show (2 : UInt8).toNat = 2 by decide]
      omega
    rw [hvalue]
    refine ⟨by rw [List.length_cons, Nat.pow_succ]; omega, fun i => ?_⟩
    cases i with
    | zero => cases flag <;> simp [Nat.testBit_zero, Nat.add_mod]
    | succ i =>
      have hhalf : (flag.toNat + 2 * (packByte rest).toNat) / 2 = (packByte rest).toNat := by omega
      rw [Nat.testBit_succ, hhalf, hbits, List.getD_cons_succ]

theorem unpackByte_packByte (flags : List Bool) (hlength : flags.length ≤ 8) :
    unpackByte (packByte flags) = flags ++ List.replicate (8 - flags.length) false := by
  obtain ⟨-, hbits⟩ := testBit_packByte flags hlength
  apply List.ext_getElem
  · simp [unpackByte]
    omega
  · intro i hi hi'
    have hget : (unpackByte (packByte flags))[i] = flags.getD i false := by simp [unpackByte, hbits]
    rw [hget, List.getD_eq_getElem?_getD]
    by_cases hin : i < flags.length
    · simp [hin]
    · simp [hin, List.getElem_append_right (Nat.le_of_not_lt hin)]

theorem length_pack (n : Nat) (flags : List Bool) : (pack n flags).length = n := by
  induction n generalizing flags with
  | zero => rfl
  | succ n ih => simp [pack, ih]

-- Flags that fit the bytes come back in front of the padding of the last byte.
theorem take_flatMap_pack (n : Nat) (flags : List Bool) (hfit : flags.length ≤ 8 * n) :
    ((pack n flags).flatMap unpackByte).take flags.length = flags := by
  induction n generalizing flags with
  | zero =>
    have hnil : flags = [] := List.length_eq_zero_iff.mp (by omega)
    simp [hnil]
  | succ n ih =>
    have hhead : (flags.take 8).length ≤ 8 := List.length_take_le 8 flags
    rw [pack, List.flatMap_cons, unpackByte_packByte _ hhead]
    by_cases hlong : 8 ≤ flags.length
    · have hfull : (flags.take 8).length = 8 := by simp [hlong]
      have hback := ih (flags.drop 8) (by simp; omega)
      rw [List.length_drop] at hback
      rw [hfull, Nat.sub_self, List.replicate_zero, List.append_nil, List.take_append,
        List.take_of_length_le (by omega), hfull, hback, List.take_append_drop]
    · have hwhole : flags.take 8 = flags := List.take_of_length_le (by omega)
      rw [hwhole, List.append_assoc, List.take_left]

theorem le_width (count : Nat) : count ≤ 8 * width count := by
  unfold width
  omega

theorem encode_of_le {flags : List Bool} (hcount : flags.length ≤ 255) :
    encode flags = UInt8.ofNat flags.length :: pack (width flags.length) flags := by
  simp only [encode, List.take_of_length_le hcount]

theorem reads_encode (flags : List Bool) (hcount : flags.length ≤ 255) : Reads decode (encode flags) flags := by
  rw [encode_of_le hcount]
  apply (Reads.u8 (UInt8.ofNat flags.length)).bind
  have hpacked := Reads.bytes (pack (width flags.length) flags)
  rw [length_pack] at hpacked
  have h := hpacked.map fun packed => (packed.flatMap unpackByte).take flags.length
  rw [take_flatMap_pack _ _ (le_width flags.length)] at h
  simpa only [Reads.toNat_count hcount] using h

end UwbRanging.LongMask
