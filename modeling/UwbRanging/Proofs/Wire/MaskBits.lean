import UwbRanging.Proofs.Wire.SameBits

namespace UwbRanging.LongMask

variable {mask : LongMask}

theorem testBit_or_bit (byte : UInt8) {k : Nat} (hk : k < 8) (j : Nat) :
    (byte ||| 1 <<< UInt8.ofNat k).toNat.testBit j = (decide (j = k) || byte.toNat.testBit j) := by
  have hbit : (1 <<< UInt8.ofNat k : UInt8).toNat = 2 ^ k := by
    have hshift : (UInt8.ofNat k).toNat % 8 = k := by
      rw [UInt8.toNat_ofNat']
      omega
    have hlt : 2 ^ k < 2 ^ 8 := Nat.pow_lt_pow_right (by decide) hk
    rw [UInt8.toNat_shiftLeft, hshift, Nat.shiftLeft_eq, show (1 : UInt8).toNat = 1 by decide, Nat.one_mul,
      Nat.mod_eq_of_lt hlt]
  rw [UInt8.toNat_or, Nat.testBit_or, hbit, Nat.testBit_two_pow, Bool.or_comm]
  simp only [eq_comm]

-- Marking an entry sets its bit and leaves the others.
theorem isLong_mark {i : Nat} (hi : i < 8 * mask.packed.length) (p : Nat) :
    (mask.mark i).isLong p = (decide (p = i) || mask.isLong p) := by
  have hplace : i / 8 < mask.packed.length := by omega
  rw [isLong_eq, isLong_eq, mark, List.getD_eq_getElem?_getD, List.getElem?_modify, List.getD_eq_getElem?_getD]
  by_cases hbyte : i / 8 = p / 8
  · have hbit : p % 8 = i % 8 ↔ p = i := by omega
    simp only [← hbyte, List.getElem?_eq_getElem hplace, if_true, Option.map_eq_map, Option.map_some, Option.getD_some]
    rw [testBit_or_bit _ (Nat.mod_lt i (by decide))]
    simp only [hbit]
  · have hother : p ≠ i := by
      rintro rfl
      exact hbyte rfl
    simp [hbyte, hother]

theorem length_mark (mask : LongMask) (i : Nat) : (mask.mark i).packed.length = mask.packed.length := by
  rw [mark, List.length_modify]

-- Entry after entry a mask keeps its length, and each of its bits is set that was set or stands for a long entry.
theorem foldl_mark (flags : List Bool) (start : Nat) (mask : LongMask)
    (hfit : start + flags.length ≤ 8 * mask.packed.length) :
    let marked := (flags.zipIdx start).foldl (fun mask entry => if entry.1 then mask.mark entry.2 else mask) mask
    marked.count = mask.count ∧ marked.packed.length = mask.packed.length ∧
      ∀ p, marked.isLong p = (mask.isLong p || (decide (start ≤ p) && flags.getD (p - start) false)) := by
  induction flags generalizing start mask with
  | nil => simp
  | cons long rest ih =>
    rw [List.length_cons] at hfit
    -- the mask after the first entry, to which the rest is added
    let next := if long then mask.mark start else mask
    have hlength : next.packed.length = mask.packed.length := by
      cases long with
      | false => rfl
      | true => exact length_mark mask start
    have hcount : next.count = mask.count := by cases long <;> rfl
    have hbit (p : Nat) : next.isLong p = (mask.isLong p || (decide (p = start) && long)) := by
      cases long with
      | false => simp [next]
      | true =>
        change (mask.mark start).isLong p = _
        rw [isLong_mark (by omega), Bool.or_comm, Bool.and_true]
    obtain ⟨hc, hl, hb⟩ := ih (start + 1) next (by omega)
    refine ⟨hc.trans hcount, hl.trans hlength, fun p => (hb p).trans ?_⟩
    rw [hbit, Bool.or_assoc]
    congr 1
    rcases Nat.lt_trichotomy p start with hp | rfl | hp
    · have hout : p ≠ start ∧ ¬start + 1 ≤ p ∧ ¬start ≤ p := by omega
      simp [hout]
    · have hafter : ¬p + 1 ≤ p := by omega
      simp [hafter]
    · have hpast : p - start = p - (start + 1) + 1 := by omega
      have hin : p ≠ start ∧ start + 1 ≤ p ∧ start ≤ p := by omega
      simp [hin, hpast]

theorem isLong_blank (count i : Nat) : (blank count).isLong i = false := by
  have hbyte : (blank count).packed.getD (i / 8) 0 = 0 := by
    rw [blank, List.getD_eq_getElem?_getD, List.getElem?_replicate]
    split <;> rfl
  rw [isLong_eq, hbyte]
  exact Nat.zero_testBit _

section
variable (flags : List Bool)

theorem count_ofFlags : (ofFlags flags).count = flags.length := by
  obtain ⟨hcount, -⟩ := foldl_mark flags 0 (blank flags.length) (by simpa [blank] using le_width flags.length)
  exact hcount

theorem length_ofFlags : (ofFlags flags).packed.length = width flags.length := by
  obtain ⟨-, hlength, -⟩ := foldl_mark flags 0 (blank flags.length) (by simpa [blank] using le_width flags.length)
  rw [ofFlags, hlength, blank, List.length_replicate]

-- The mask answers for each entry as it was asked to, and for places without an entry that it is not long.
theorem isLong_ofFlags (i : Nat) : (ofFlags flags).isLong i = flags.getD i false := by
  obtain ⟨-, -, hbits⟩ := foldl_mark flags 0 (blank flags.length) (by simpa [blank] using le_width flags.length)
  rw [ofFlags, hbits, isLong_blank]
  simp

-- Marked one by one or packed eight at a time, the bytes are the same.
theorem packed_ofFlags : (ofFlags flags).packed = pack (width flags.length) flags := by
  have hsame : SameBits (fun _ _ => False) (ofFlags flags).packed (pack (width flags.length) flags) := by
    refine ⟨by rw [length_ofFlags, length_pack], fun i k _ => ?_⟩
    by_cases hk : k < 8
    · have hplace : (8 * i + k) / 8 = i ∧ (8 * i + k) % 8 = k := by omega
      have hbit := isLong_ofFlags flags (8 * i + k)
      rw [isLong_eq, hplace.1, hplace.2] at hbit
      rw [hbit]
      by_cases hi : i < width flags.length
      · exact (testBit_pack _ flags i k hi hk).symm
      · have hfit := le_width flags.length
        rw [List.getD_eq_default _ _ (by omega), List.getD_eq_default _ _ (by rw [length_pack]; omega)]
        exact (Nat.zero_testBit k).symm
    · rw [Bits.testBit_byte_eq_false _ (by omega), Bits.testBit_byte_eq_false _ (by omega)]
  exact hsame.eq_of_busy fun _ _ => id

-- What was written is read back as the mask that was written.
theorem reads_read (hcount : flags.length ≤ 255) : Reads read (encode flags) (ofFlags flags) := by
  have hmask : ofFlags flags = ⟨flags.length, pack (width flags.length) flags⟩ := by
    rw [← packed_ofFlags, ← count_ofFlags]
  have hbytes := Reads.bytes (pack (width flags.length) flags)
  rw [length_pack] at hbytes
  rw [encode_of_le hcount, hmask]
  apply (Reads.u8 (UInt8.ofNat flags.length)).bind
  rw [Reads.toNat_count hcount]
  exact hbytes.map (LongMask.mk flags.length)

end

-- Bits beyond the last entry are written as zero.
theorem testBit_encode_of_idle {flags : List Bool} (hcount : flags.length ≤ 255) {i k : Nat}
    (hidle : Idle flags.length i k) : ((encode flags).getD i 0).toNat.testBit k = false := by
  obtain ⟨hpos, hlast, hbeyond⟩ := hidle
  obtain ⟨j, rfl⟩ := Nat.exists_eq_succ_of_ne_zero (Nat.ne_of_gt hpos)
  rw [encode_of_le hcount, List.getD_cons_succ]
  by_cases hk : k < 8
  · rw [testBit_pack _ flags j k (by omega) hk, List.getD_eq_default _ _ (by omega)]
  · exact Bits.testBit_byte_eq_false _ (Nat.le_of_not_lt hk)

-- A mask tells of each of up to 255 entries what it was told, and of no other place that it is long. It is read from
-- the bytes that were written for it, and from no more. What is read of any bytes gives those bytes again, with the
-- bits beyond the last entry cleared.
theorem mask_exact :
    (∀ flags : List Bool, flags.length ≤ 255 →
      encode flags = UInt8.ofNat flags.length :: (ofFlags flags).packed ∧
      (encode flags).length = 1 + (flags.length + 7) / 8 ∧
      ∃ mask, Reads read (encode flags) mask ∧ mask.count = flags.length ∧
        (∀ i (hi : i < flags.length), mask.isLong i = flags[i]) ∧
        ∀ i, flags.length ≤ i → mask.isLong i = false) ∧
    (Accepts read fun bytes mask =>
      SameBits (Idle mask.count) bytes (encode mask.flags) ∧
      ∀ i k, Idle mask.count i k → ((encode mask.flags).getD i 0).toNat.testBit k = false) ∧
    decode = (do return (← read).flags) := by
  refine ⟨?_, ?_, decode_eq⟩
  · intro flags hcount
    have hbytes : encode flags = UInt8.ofNat flags.length :: (ofFlags flags).packed := by
      rw [encode_of_le hcount, packed_ofFlags]
    refine ⟨hbytes, ?_, ofFlags flags, reads_read flags hcount, count_ofFlags flags, ?_, ?_⟩
    · rw [hbytes, List.length_cons, length_ofFlags, width, Nat.add_comm]
    · intro i hi
      rw [isLong_ofFlags, List.getD_eq_getElem _ _ hi]
    · intro i hi
      rw [isLong_ofFlags, List.getD_eq_default _ _ hi]
  · refine accepts_read.mono ?_
    rintro _ mask ⟨hcount, hpacked, rfl⟩
    refine ⟨sameBits_encode hcount hpacked, fun i k hidle => ?_⟩
    rw [← length_flags] at hcount hidle
    exact testBit_encode_of_idle hcount hidle

-- Nine entries, the last of them long, and a mask of two entries in a byte whose bits are all set.
theorem mask_exact_spareBits :
    (∃ mask, Reads read [9, 0, 1] mask ∧ mask.count = 9 ∧ mask.isLong 8 = true ∧ mask.isLong 9 = false) ∧
    ∃ mask, read ⟨2, [2, 0xff]⟩ = .ok (mask, ⟨2, []⟩) ∧ encode mask.flags = [2, 3] ∧
      SameBits (Idle 2) [2, 0xff] [2, 3] := by
  obtain ⟨hwritten, haccepted, -⟩ := mask_exact
  constructor
  · have hbytes : encode [false, false, false, false, false, false, false, false, true] = [9, 0, 1] := by decide
    obtain ⟨-, -, mask, hreads, hcount, hin, hout⟩ :=
      hwritten [false, false, false, false, false, false, false, false, true] (by decide)
    rw [hbytes] at hreads
    exact ⟨mask, hreads, hcount, hin 8 (by decide), hout 9 (by decide)⟩
  · have hread : read ⟨2, [2, 0xff]⟩ = .ok (⟨2, [0xff]⟩, ⟨2, []⟩) := rfl
    obtain ⟨front, hfront, hsame, -⟩ := haccepted _ _ _ hread
    obtain rfl : [2, 0xff] = front := by simpa using hfront
    exact ⟨_, hread, by decide, hsame⟩

end UwbRanging.LongMask
