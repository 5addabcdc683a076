import Mathlib.Algebra.Group.Nat.Defs
import UwbRanging.Bits

namespace UwbRanging.Bits

-- A word is settled by its bits.
theorem eq_of_testBit_eq {a b : UInt32} (h : ∀ i, a.toNat.testBit i = b.toNat.testBit i) : a = b :=
  UInt32.toNat_inj.mp (Nat.eq_of_testBit_eq h)

theorem testBit_eq_false (word : UInt32) {i : Nat} (hi : 32 ≤ i) : word.toNat.testBit i = false := by
  apply Nat.testBit_lt_two_pow
  exact Nat.lt_of_lt_of_le word.toNat_lt (Nat.pow_le_pow_right (by decide) hi)

theorem testBit_byte_eq_false (byte : UInt8) {i : Nat} (hi : 8 ≤ i) : byte.toNat.testBit i = false :=
  Nat.testBit_lt_two_pow (Nat.lt_of_lt_of_le byte.toNat_lt (Nat.pow_le_pow_right (by decide) hi))

theorem testBit_shiftLeft (word n : UInt32) (hn : n.toNat < 32) (i : Nat) :
    (word <<< n).toNat.testBit i =
      (decide (i < 32) && (decide (n.toNat ≤ i) && word.toNat.testBit (i - n.toNat))) := by
  rw [UInt32.toNat_shiftLeft, Nat.mod_eq_of_lt hn, Nat.testBit_mod_two_pow, Nat.testBit_shiftLeft]

theorem testBit_lowMask (count : UInt32) (i : Nat) :
    (lowMask count).toNat.testBit i = decide (i < 32 ∧ i < count.toNat) := by
  unfold lowMask
  split
  · rename_i h
    have hall : (0xffffffff : UInt32).toNat = 2 ^ 32 - 1 := by decide
    have hcount : 32 ≤ count.toNat := UInt32.le_iff_toNat_le.mp h
    rw [hall, Nat.testBit_two_pow_sub_one]
    congr 1
    apply propext
    omega
  · rename_i h
    have hcount : count.toNat < 32 := by
      have := mt UInt32.le_iff_toNat_le.mpr h
      simpa using this
    have hone : (1 <<< count : UInt32).toNat = 2 ^ count.toNat := by
      have hlt : 2 ^ count.toNat < 2 ^ 32 := Nat.pow_lt_pow_right (by decide) hcount
      rw [UInt32.toNat_shiftLeft, Nat.mod_eq_of_lt hcount, Nat.shiftLeft_eq,
        show (1 : UInt32).toNat = 1 by decide, Nat.one_mul, Nat.mod_eq_of_lt hlt]
    have hle : (1 : UInt32) ≤ 1 <<< count := by
      rw [UInt32.le_iff_toNat_le, hone]
      exact Nat.one_le_two_pow
    rw [UInt32.toNat_sub_of_le _ _ hle, hone, show (1 : UInt32).toNat = 1 by decide,
      Nat.testBit_two_pow_sub_one]
    congr 1
    apply propext
    omega

theorem testBit_get (word offset count : UInt32) (ho : offset.toNat < 32) (i : Nat) :
    (get word offset count).toNat.testBit i =
      (word.toNat.testBit (offset.toNat + i) && decide (i < count.toNat)) := by
  rw [get, UInt32.toNat_and, Nat.testBit_and, UInt32.toNat_shiftRight, Nat.mod_eq_of_lt ho,
    Nat.testBit_shiftRight, testBit_lowMask]
  by_cases hi : i < 32
  · simp [hi]
  · simp [testBit_eq_false word (by omega : 32 ≤ offset.toNat + i)]

theorem testBit_place (value offset count : UInt32) (ho : offset.toNat < 32) (i : Nat) :
    (place value offset count).toNat.testBit i =
      (decide (i < 32 ∧ offset.toNat ≤ i ∧ i < offset.toNat + count.toNat) &&
        value.toNat.testBit (i - offset.toNat)) := by
  rw [place, testBit_shiftLeft _ _ ho, UInt32.toNat_and, Nat.testBit_and, testBit_lowMask]
  by_cases hi : i < 32
  · by_cases hoi : offset.toNat ≤ i
    · have hcount : i - offset.toNat < count.toNat ↔ i < offset.toNat + count.toNat := by omega
      have hwidth : i - offset.toNat < 32 := by omega
      simp [hi, hoi, hcount, hwidth, Bool.and_comm]
    · simp [hoi]
  · simp [hi]

theorem testBit_placeFlag (flag : Bool) (n : UInt32) (hn : n.toNat < 32) (i : Nat) :
    (placeFlag flag n).toNat.testBit i = (decide (i = n.toNat) && flag) := by
  rw [placeFlag, testBit_place _ _ _ hn, show (1 : UInt32).toNat = 1 by decide]
  by_cases hi : i = n.toNat
  · have hbit : flag.toUInt32.toNat.testBit 0 = flag := by cases flag <;> rfl
    rw [hi, Nat.sub_self, hbit]
    simp [hn]
  · have hout : ¬(i < 32 ∧ n.toNat ≤ i ∧ i < n.toNat + 1) := by omega
    simp only [hi, hout, decide_false, Bool.false_and]

-- Reading a field looks at each of two combined words alone.
theorem get_or (a b offset count : UInt32) :
    get (a ||| b) offset count = get a offset count ||| get b offset count := by
  apply eq_of_testBit_eq
  intro i
  simp only [get, UInt32.toNat_and, UInt32.toNat_or, UInt32.toNat_shiftRight, Nat.testBit_and,
    Nat.testBit_or, Nat.testBit_shiftRight]
  exact Bool.and_or_distrib_right _ _ _

theorem get_place (value offset count : UInt32) (ho : offset.toNat < 32)
    (hfit : offset.toNat + count.toNat ≤ 32) :
    get (place value offset count) offset count = value &&& lowMask count := by
  apply eq_of_testBit_eq
  intro i
  rw [testBit_get _ _ _ ho, testBit_place _ _ _ ho, UInt32.toNat_and, Nat.testBit_and, testBit_lowMask,
    Nat.add_sub_cancel_left]
  by_cases hi : i < count.toNat
  · have hin : offset.toNat + i < 32 := by omega
    simp [hi, hin, show i < 32 by omega]
  · simp [hi]

-- A field holds nothing above its width.
theorem get_and_lowMask (word offset count : UInt32) :
    get word offset count &&& lowMask count = get word offset count := by
  rw [get, UInt32.and_assoc, UInt32.and_self]

-- The low bits of a value are what is left of it modulo the span of the field.
theorem toNat_and_lowMask (value count : UInt32) :
    (value &&& lowMask count).toNat = value.toNat % 2 ^ count.toNat := by
  apply Nat.eq_of_testBit_eq
  intro i
  rw [UInt32.toNat_and, Nat.testBit_and, testBit_lowMask, Nat.testBit_mod_two_pow]
  by_cases hi : i < 32
  · simp [hi, Bool.and_comm]
  · simp [testBit_eq_false value (Nat.le_of_not_lt hi)]

theorem get_lt (word offset count : UInt32) : (get word offset count).toNat < 2 ^ count.toNat := by
  apply Nat.lt_pow_two_of_testBit
  intro i hi
  rw [get, UInt32.toNat_and, Nat.testBit_and, testBit_lowMask]
  simp [Nat.not_lt.mpr hi]

-- A field of at most eight bits is held by a byte.
theorem toNat_toUInt8_get (word offset : UInt32) {count : UInt32} (hcount : count.toNat ≤ 8) :
    (get word offset count).toUInt8.toNat = (get word offset count).toNat := by
  have hlt : (get word offset count).toNat < 2 ^ 8 :=
    Nat.lt_of_lt_of_le (get_lt word offset count) (Nat.pow_le_pow_right (by decide) hcount)
  rw [UInt32.toNat_toUInt8, Nat.mod_eq_of_lt hlt]

-- The low half of a byte.
theorem and_nibble_lt (byte : UInt8) : byte &&& 0x0f < 16 := by
  apply UInt8.lt_iff_toNat_lt.mpr
  rw [UInt8.toNat_and]
  exact Nat.and_lt_two_pow (n := 4) _ (by decide)

-- Words that agree in a field agree in its bits.
theorem testBit_eq_of_get {a b offset count : UInt32} (ho : offset.toNat < 32)
    (h : get a offset count = get b offset count) {i : Nat} (hlow : offset.toNat ≤ i)
    (hhigh : i < offset.toNat + count.toNat) : a.toNat.testBit i = b.toNat.testBit i := by
  have hbit := congrArg (fun word => word.toNat.testBit (i - offset.toNat)) h
  have hin : i - offset.toNat < count.toNat := by omega
  simpa [testBit_get _ _ _ ho, Nat.add_sub_of_le hlow, hin] using hbit

-- A value that fits its field fills no bit above it.
theorem and_lowMask_of_lt {value count : UInt32} (hvalue : value.toNat < 2 ^ count.toNat) :
    value &&& lowMask count = value := by
  apply eq_of_testBit_eq
  intro i
  rw [UInt32.toNat_and, Nat.testBit_and, testBit_lowMask]
  by_cases hi : i < 32 ∧ i < count.toNat
  · simp [hi]
  · have hbit : value.toNat.testBit i = false := by
      by_cases hwide : i < 32
      · have hle : 2 ^ count.toNat ≤ 2 ^ i := Nat.pow_le_pow_right (by decide) (by omega)
        exact Nat.testBit_lt_two_pow (Nat.lt_of_lt_of_le hvalue hle)
      · exact testBit_eq_false value (by omega)
    simp [hbit]

theorem toUInt8_field {value : UInt8} {count : UInt32} (hvalue : value.toNat < 2 ^ count.toNat) :
    (value.toUInt32 &&& lowMask count).toUInt8 = value := by
  rw [and_lowMask_of_lt (by simpa using hvalue), UInt8.toUInt8_toUInt32]

-- A field elsewhere in the word is not touched.
theorem get_place_disjoint (value offset count offset' count' : UInt32)
    (ho : offset.toNat < 32) (ho' : offset'.toNat < 32)
    (hdisjoint : offset.toNat + count.toNat ≤ offset'.toNat ∨ offset'.toNat + count'.toNat ≤ offset.toNat) :
    get (place value offset count) offset' count' = 0 := by
  apply eq_of_testBit_eq
  intro i
  rw [testBit_get _ _ _ ho', testBit_place _ _ _ ho, UInt32.toNat_zero, Nat.zero_testBit]
  by_cases hi : i < count'.toNat
  · have hout : ¬(offset'.toNat + i < 32 ∧ offset.toNat ≤ offset'.toNat + i ∧
        offset'.toNat + i < offset.toNat + count.toNat) := by omega
    simp [hout]
  · simp [hi]

theorem bit_toNat (n : UInt32) (hn : n.toNat < 32) : (bit n).toNat = 2 ^ n.toNat := by
  have hlt : 2 ^ n.toNat < 2 ^ 32 := Nat.pow_lt_pow_right (by decide) hn
  rw [bit, UInt32.toNat_shiftLeft, Nat.mod_eq_of_lt hn, Nat.shiftLeft_eq,
    show (1 : UInt32).toNat = 1 by decide, Nat.one_mul, Nat.mod_eq_of_lt hlt]

-- A word with at most one bit set is nonzero exactly if that bit is set.
theorem bne_zero_eq_of_single_bit {word : UInt32} {k : Nat} {flag : Bool}
    (h : ∀ i, word.toNat.testBit i = (decide (i = k) && flag)) : (word != 0) = flag := by
  cases flag with
  | false =>
    have hzero : word = 0 := eq_of_testBit_eq fun i => by rw [h]; simp
    simp [hzero]
  | true =>
    have hk : word.toNat.testBit k = true := by rw [h]; simp
    have hne : word ≠ 0 := by
      rintro rfl
      simp at hk
    simpa using hne

theorem test_eq_testBit (word n : UInt32) (hn : n.toNat < 32) : test word n = word.toNat.testBit n.toNat := by
  apply bne_zero_eq_of_single_bit (k := n.toNat)
  intro i
  rw [UInt32.toNat_and, Nat.testBit_and, bit_toNat n hn, Nat.testBit_two_pow]
  by_cases hi : n.toNat = i
  · simp [hi]
  · simp [hi, Ne.symm hi]

theorem testBit_eq_of_test {a b : UInt8} (n : UInt32) (hn : n.toNat < 32)
    (h : test a.toUInt32 n = test b.toUInt32 n) : a.toNat.testBit n.toNat = b.toNat.testBit n.toNat := by
  rwa [test_eq_testBit _ n hn, test_eq_testBit _ n hn, UInt8.toNat_toUInt32, UInt8.toNat_toUInt32] at h

-- A single bit is a field of one bit.
theorem test_eq_get (word n : UInt32) (hn : n.toNat < 32) : test word n = (get word n 1 != 0) := by
  rw [test_eq_testBit word n hn]
  symm
  apply bne_zero_eq_of_single_bit (k := 0)
  intro i
  rw [testBit_get _ _ _ hn, show (1 : UInt32).toNat = 1 by decide]
  by_cases hi : i = 0
  · simp [hi]
  · simp [hi]

theorem get_eq_test (word n : UInt32) (hn : n.toNat < 32) : get word n 1 = (test word n).toUInt32 := by
  have hvalue : (test word n).toUInt32.toNat = (test word n).toNat := by cases test word n <;> rfl
  apply eq_of_testBit_eq
  intro i
  rw [testBit_get _ _ _ hn, show (1 : UInt32).toNat = 1 by decide, hvalue, Nat.testBit_bool_toNat,
    test_eq_testBit word n hn]
  by_cases hi : i = 0
  · simp [hi]
  · simp [hi]

-- A word cut to its low bits keeps the fields among them.
theorem get_of_toNat_eq_mod {word low offset count : UInt32} {width : Nat}
    (hlow : low.toNat = word.toNat % 2 ^ width) (ho : offset.toNat < 32)
    (hfit : offset.toNat + count.toNat ≤ width) :
    get low offset count = get word offset count := by
  apply eq_of_testBit_eq
  intro i
  rw [testBit_get _ _ _ ho, testBit_get _ _ _ ho, hlow, Nat.testBit_mod_two_pow]
  by_cases hi : i < count.toNat
  · simp [show offset.toNat + i < width by omega]
  · simp [hi]

theorem get_toUInt16 (word offset count : UInt32) (ho : offset.toNat < 32)
    (hfit : offset.toNat + count.toNat ≤ 16) :
    get word.toUInt16.toUInt32 offset count = get word offset count :=
  get_of_toNat_eq_mod (by simp) ho hfit

theorem get_toUInt8 (word offset count : UInt32) (ho : offset.toNat < 32)
    (hfit : offset.toNat + count.toNat ≤ 8) :
    get word.toUInt8.toUInt32 offset count = get word offset count :=
  get_of_toNat_eq_mod (by simp) ho hfit

end UwbRanging.Bits
