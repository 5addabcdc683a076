import Mathlib.Data.List.GetD
import UwbRanging.Proofs.Bits
import UwbRanging.Proofs.Wire.Accepts
import UwbRanging.Proofs.Wire.LongMask

namespace UwbRanging

-- As many bytes in both, and the same bits: bit `k` of byte `i` may differ only where it is idle.
structure SameBits (idle : Nat → Nat → Prop) (xs ys : List UInt8) : Prop where
  length : xs.length = ys.length
  bits : ∀ i k, ¬idle i k → (xs.getD i 0).toNat.testBit k = (ys.getD i 0).toNat.testBit k

namespace SameBits

variable {idle idle' : Nat → Nat → Prop} {xs ys xs' ys' : List UInt8}

theorem refl (idle : Nat → Nat → Prop) (xs : List UInt8) : SameBits idle xs xs := ⟨rfl, fun _ _ _ => rfl⟩

theorem mono (h : SameBits idle xs ys) (hidle : ∀ i k, idle i k → idle' i k) : SameBits idle' xs ys :=
  ⟨h.length, fun i k hk => h.bits i k (mt (hidle i k) hk)⟩

theorem append (hfront : SameBits idle xs ys) (hback : SameBits (fun i => idle (xs.length + i)) xs' ys') :
    SameBits idle (xs ++ xs') (ys ++ ys') where
  length := by rw [List.length_append, List.length_append, hfront.length, hback.length]
  bits := by
    intro i k hk
    have hlength := hfront.length
    by_cases hi : i < xs.length
    · rw [List.getD_append _ _ _ _ hi, List.getD_append _ _ _ _ (hlength ▸ hi)]
      exact hfront.bits i k hk
    · have hle : xs.length ≤ i := Nat.le_of_not_lt hi
      rw [List.getD_append_right _ _ _ _ hle, List.getD_append_right _ _ _ _ (hlength ▸ hle), ← hlength]
      apply hback.bits
      rwa [Nat.add_sub_of_le hle]

theorem cons {x y : UInt8} (hbyte : ∀ k, ¬idle 0 k → x.toNat.testBit k = y.toNat.testBit k)
    (hrest : SameBits (fun i => idle (i + 1)) xs ys) : SameBits idle (x :: xs) (y :: ys) where
  length := congrArg (· + 1) hrest.length
  bits
    | 0, k, hk => hbyte k hk
    | i + 1, k, hk => hrest.bits i k hk

-- Without idle bits the bytes are the same.
theorem eq_of_busy (h : SameBits idle xs ys) (hbusy : ∀ i k, ¬idle i k) : xs = ys := by
  refine List.ext_getElem h.length fun i hx hy => ?_
  apply UInt8.toNat_inj.mp
  apply Nat.eq_of_testBit_eq
  intro k
  have hbit := h.bits i k (hbusy i k)
  rwa [List.getD_eq_getElem _ _ hx, List.getD_eq_getElem _ _ hy] at hbit

end SameBits

namespace LongMask

-- The bits of a mask of `count` entries that stand for no entry: those of the last byte from position
-- `count` on. The count is byte 0, and the masks follow.
def Idle (count i k : Nat) : Prop := 0 < i ∧ i = width count ∧ count ≤ 8 * (i - 1) + k

theorem length_flatMap_unpackByte (packed : List UInt8) : (packed.flatMap unpackByte).length = 8 * packed.length := by
  induction packed with
  | nil => rfl
  | cons byte rest ih =>
    rw [List.flatMap_cons, List.length_append, ih, List.length_cons, Nat.mul_succ, Nat.add_comm]
    rfl

theorem getD_flatMap_unpackByte (packed : List UInt8) (i k : Nat) (hk : k < 8) :
    (packed.flatMap unpackByte).getD (8 * i + k) false = (packed.getD i 0).toNat.testBit k := by
  induction packed generalizing i with
  | nil => simp
  | cons byte rest ih =>
    have hlength : (unpackByte byte).length = 8 := rfl
    rw [List.flatMap_cons]
    cases i with
    | zero =>
      rw [List.getD_append _ _ _ _ (by omega)]
      simp [unpackByte, hk]
    | succ i =>
      have hpast : 8 * (i + 1) + k - 8 = 8 * i + k := by omega
      rw [List.getD_append_right _ _ _ _ (by omega), hlength, hpast, ih i, List.getD_cons_succ]

theorem testBit_pack (n : Nat) (flags : List Bool) (i k : Nat) (hi : i < n) (hk : k < 8) :
    ((pack n flags).getD i 0).toNat.testBit k = flags.getD (8 * i + k) false := by
  induction n generalizing flags i with
  | zero => omega
  | succ n ih =>
    rw [pack]
    cases i with
    | zero =>
      obtain ⟨-, hbits⟩ := testBit_packByte (flags.take 8) (List.length_take_le 8 flags)
      rw [List.getD_cons_zero, hbits, Nat.mul_zero, Nat.zero_add]
      simp [List.getD_eq_getElem?_getD, hk]
    | succ i =>
      have hpast : 8 + (8 * i + k) = 8 * (i + 1) + k := by omega
      rw [List.getD_cons_succ, ih _ i (by omega)]
      simp [List.getD_eq_getElem?_getD, hpast]

-- The flags of a mask are written as they were, up to the padding of its last byte.
theorem sameBits_pack {count : Nat} {packed : List UInt8} (hpacked : packed.length = width count) :
    SameBits (fun i => Idle count (i + 1)) packed
      (pack (width count) ((packed.flatMap unpackByte).take count)) where
  length := by rw [length_pack, hpacked]
  bits := by
    intro i k hidle
    by_cases hk : k < 8
    · by_cases hi : i < width count
      · have hin : 8 * i + k < count := by
          by_contra hout
          have hlast : i + 1 = width count := by
            unfold width at hi ⊢
            omega
          exact hidle ⟨Nat.succ_pos i, hlast, by rw [Nat.add_sub_cancel]; omega⟩
        have htake : ((packed.flatMap unpackByte).take count).getD (8 * i + k) false
            = (packed.flatMap unpackByte).getD (8 * i + k) false := by
          simp [List.getD_eq_getElem?_getD, hin]
        rw [testBit_pack _ _ i k hi hk, htake, getD_flatMap_unpackByte _ i k hk]
      · rw [List.getD_eq_default _ _ (by omega), List.getD_eq_default _ _ (by rw [length_pack]; omega)]
    · rw [Bits.testBit_byte_eq_false _ (by omega), Bits.testBit_byte_eq_false _ (by omega)]

variable {mask : LongMask}

theorem isLong_eq (mask : LongMask) (i : Nat) :
    mask.isLong i = (mask.packed.getD (i / 8) 0).toNat.testBit (i % 8) := by
  rw [isLong, List.getD_eq_getElem?_getD]
  cases mask.packed[i / 8]? with
  | none => simp
  | some byte => rfl

theorem length_flags (mask : LongMask) : mask.flags.length = mask.count := by simp [flags]

-- The answers for the entries are the bits of the mask, as far as its count goes.
theorem flags_eq (hpacked : mask.packed.length = width mask.count) :
    mask.flags = (mask.packed.flatMap unpackByte).take mask.count := by
  have hlength := length_flatMap_unpackByte mask.packed
  have hfit := le_width mask.count
  apply List.ext_getElem
  · rw [length_flags, List.length_take, hlength]
    omega
  · intro i hi hi'
    have hin : i < (mask.packed.flatMap unpackByte).length := by
      rw [length_flags] at hi
      omega
    have hplace : 8 * (i / 8) + i % 8 = i := Nat.div_add_mod i 8
    have hbit := getD_flatMap_unpackByte mask.packed (i / 8) (i % 8) (Nat.mod_lt i (by decide))
    rw [hplace, List.getD_eq_getElem _ _ hin] at hbit
    simp [flags, isLong_eq, hbit]

-- The flags by which a payload is read are the answers of its mask.
theorem decode_eq : decode = (do return (← read).flags) := by
  have hflags (count : Nat) (o : Octets (width count)) :
      (o.toList.flatMap unpackByte).take count = flags ⟨count, o.toList⟩ :=
    (@flags_eq ⟨count, o.toList⟩ o.length_eq).symm
  simp only [decode, read, Reader.bytes, bind_assoc, pure_bind, hflags]

theorem accepts_read : Accepts read fun bytes mask =>
    mask.count ≤ 255 ∧ mask.packed.length = width mask.count ∧ bytes = UInt8.ofNat mask.count :: mask.packed := by
  refine Accepts.u8.bindMap (fun count => Accepts.bytes (width count.toNat)) ?_
  rintro _ _ count packed rfl ⟨rfl, hlength⟩
  have hbyte := count.toNat_lt
  refine ⟨Nat.le_of_lt_succ hbyte, hlength, ?_⟩
  rw [UInt8.ofNat_toNat]
  rfl

-- What was read is written as it was, but for the bits beyond the last entry.
theorem sameBits_encode (hcount : mask.count ≤ 255) (hpacked : mask.packed.length = width mask.count) :
    SameBits (Idle mask.count) (UInt8.ofNat mask.count :: mask.packed) (encode mask.flags) := by
  rw [encode_of_le (by rwa [length_flags]), length_flags, flags_eq hpacked]
  exact SameBits.cons (fun _ _ => rfl) (sameBits_pack hpacked)

theorem accepts_decode :
    Accepts decode fun bytes flags => flags.length ≤ 255 ∧ SameBits (Idle flags.length) bytes (encode flags) := by
  rw [decode_eq]
  refine accepts_read.map ?_
  rintro _ mask ⟨hcount, hpacked, rfl⟩
  rw [length_flags]
  exact ⟨hcount, sameBits_encode hcount hpacked⟩

end LongMask

end UwbRanging
