import Mathlib.Data.List.Pairwise
import UwbRanging.Proofs.Bits

namespace UwbRanging

-- A place for a field in a word: `count` bits from bit `offset` on. There is at least one, and all of them are in
-- the word.
structure BitRange where
  offset : UInt32
  count : UInt32
  count_pos : 1 ≤ count.toNat
  fits : offset.toNat + count.toNat ≤ 32
  deriving DecidableEq

namespace BitRange

def Covers (r : BitRange) (i : Nat) : Prop := r.offset.toNat ≤ i ∧ i < r.offset.toNat + r.count.toNat

instance (r : BitRange) (i : Nat) : Decidable (r.Covers i) := inferInstanceAs (Decidable (_ ∧ _))

-- One of the ranges ends before the other starts.
def Disjoint (r s : BitRange) : Prop :=
  r.offset.toNat + r.count.toNat ≤ s.offset.toNat ∨ s.offset.toNat + s.count.toNat ≤ r.offset.toNat

instance (r s : BitRange) : Decidable (r.Disjoint s) := inferInstanceAs (Decidable (_ ∨ _))

instance : Std.Symm Disjoint := ⟨fun _ _ => Or.symm⟩

def get (r : BitRange) (word : UInt32) : UInt32 := Bits.get word r.offset r.count

def place (r : BitRange) (value : UInt32) : UInt32 := Bits.place value r.offset r.count

-- No bit is in both of two ranges exactly if they do not overlap.
theorem disjoint_iff {r s : BitRange} : r.Disjoint s ↔ ∀ i, ¬(r.Covers i ∧ s.Covers i) := by
  have hr := r.count_pos
  have hs := s.count_pos
  constructor
  · intro h i
    unfold Disjoint Covers at *
    omega
  · intro h
    -- of two ranges that overlap, the later start is in both
    have hlater := h (max r.offset.toNat s.offset.toNat)
    unfold Disjoint Covers at *
    omega

theorem offset_lt (r : BitRange) : r.offset.toNat < 32 := by
  have hcount := r.count_pos
  have hfits := r.fits
  omega

theorem Covers.lt {r : BitRange} {i : Nat} (h : r.Covers i) : i < 32 := Nat.lt_of_lt_of_le h.2 r.fits

theorem testBit_place (r : BitRange) (value : UInt32) (i : Nat) :
    (r.place value).toNat.testBit i = (decide (r.Covers i) && value.toNat.testBit (i - r.offset.toNat)) := by
  rw [place, Bits.testBit_place _ _ _ r.offset_lt]
  have hcovers : (i < 32 ∧ r.offset.toNat ≤ i ∧ i < r.offset.toNat + r.count.toNat) ↔ r.Covers i :=
    ⟨And.right, fun h => ⟨h.lt, h⟩⟩
  simp only [hcovers]

theorem testBit_get (r : BitRange) (word : UInt32) (k : Nat) :
    (r.get word).toNat.testBit k = (decide (k < r.count.toNat) && word.toNat.testBit (r.offset.toNat + k)) := by
  rw [get, Bits.testBit_get _ _ _ r.offset_lt, Bool.and_comm]

-- What is placed where it was read is that part of the word.
theorem testBit_place_get (r : BitRange) (word : UInt32) (i : Nat) :
    (r.place (r.get word)).toNat.testBit i = (decide (r.Covers i) && word.toNat.testBit i) := by
  rw [testBit_place, testBit_get]
  by_cases hi : r.Covers i
  · have hin : i - r.offset.toNat < r.count.toNat := by
      unfold Covers at hi
      omega
    simp [hi, hin, Nat.add_sub_of_le hi.1]
  · simp [hi]

end BitRange

-- A value for a range of bits. What of it is wider than the range is dropped.
structure BitField where
  range : BitRange
  value : UInt32

namespace BitField

-- All fields in one word.
def pack (fields : List BitField) : UInt32 := fields.foldl (fun word f => word ||| f.range.place f.value) 0

variable {fields fields' : List BitField}

theorem testBit_foldl (fields : List BitField) (word : UInt32) (i : Nat) :
    (fields.foldl (fun word f => word ||| f.range.place f.value) word).toNat.testBit i =
      (word.toNat.testBit i || fields.any fun f => (f.range.place f.value).toNat.testBit i) := by
  induction fields generalizing word with
  | nil => simp
  | cons f rest ih =>
    rw [List.foldl_cons, ih, UInt32.toNat_or, Nat.testBit_or, List.any_cons, Bool.or_assoc]

theorem testBit_pack (fields : List BitField) (i : Nat) :
    (pack fields).toNat.testBit i = fields.any fun f => (f.range.place f.value).toNat.testBit i := by
  rw [pack, testBit_foldl, UInt32.toNat_zero, Nat.zero_testBit, Bool.false_or]

theorem pack_perm (h : fields.Perm fields') : pack fields = pack fields' := by
  apply Bits.eq_of_testBit_eq
  intro i
  rw [testBit_pack, testBit_pack, h.any_eq]

-- Outside of all ranges no bit is set.
theorem testBit_pack_of_uncovered {i : Nat} (h : ∀ f ∈ fields, ¬f.range.Covers i) :
    (pack fields).toNat.testBit i = false := by
  rw [testBit_pack, List.any_eq_false]
  intro f hf
  simp [BitRange.testBit_place, h f hf]

-- A bit in the range of one field is not in the range of another, so that it is the bit of that field's value.
theorem testBit_pack_of_covers (hdisjoint : (fields.map range).Pairwise BitRange.Disjoint) {f : BitField}
    (hf : f ∈ fields) {i : Nat} (hi : f.range.Covers i) :
    (pack fields).toNat.testBit i = f.value.toNat.testBit (i - f.range.offset.toNat) := by
  have hown : (f.range.place f.value).toNat.testBit i = f.value.toNat.testBit (i - f.range.offset.toNat) := by
    simp [BitRange.testBit_place, hi]
  have honly : ∀ g ∈ fields, g.range.Covers i → g = f := by
    intro g hg hgi
    by_contra hne
    have : Std.Symm fun f g : BitField => f.range.Disjoint g.range := ⟨fun _ _ => Or.symm⟩
    exact BitRange.disjoint_iff.mp ((List.pairwise_map.mp hdisjoint).forall hg hf hne) i ⟨hgi, hi⟩
  rw [testBit_pack, ← hown, Bool.eq_iff_iff, List.any_eq_true]
  constructor
  · rintro ⟨g, hg, hbit⟩
    have hgi : g.range.Covers i := by
      rw [BitRange.testBit_place] at hbit
      simp_all
    rwa [← honly g hg hgi]
  · exact fun hbit => ⟨f, hf, hbit⟩

-- Each field is read back as far as its width goes.
theorem get_pack (hdisjoint : (fields.map range).Pairwise BitRange.Disjoint) {f : BitField} (hf : f ∈ fields) :
    f.range.get (pack fields) = f.value &&& Bits.lowMask f.range.count := by
  have hfits := f.range.fits
  apply Bits.eq_of_testBit_eq
  intro k
  rw [BitRange.testBit_get, UInt32.toNat_and, Nat.testBit_and, Bits.testBit_lowMask]
  by_cases hk : k < f.range.count.toNat
  · have hcovers : f.range.Covers (f.range.offset.toNat + k) :=
      ⟨Nat.le_add_right _ _, Nat.add_lt_add_left hk _⟩
    rw [testBit_pack_of_covers hdisjoint hf hcovers, Nat.add_sub_cancel_left]
    simp [hk, show k < 32 by omega]
  · simp [hk]

-- A word is put together again from its own fields, if these leave none of its bits out.
theorem pack_get (hcovered : ∀ i < 32, ∃ f ∈ fields, f.range.Covers i) (word : UInt32) :
    pack (fields.map fun f => ⟨f.range, f.range.get word⟩) = word := by
  apply Bits.eq_of_testBit_eq
  intro i
  rw [testBit_pack, List.any_map]
  simp only [Function.comp_def, BitRange.testBit_place_get]
  by_cases hi : i < 32
  · obtain ⟨f, hf, hfi⟩ := hcovered i hi
    rw [Bool.eq_iff_iff, List.any_eq_true]
    constructor
    · rintro ⟨g, -, hbit⟩
      simp_all
    · exact fun hbit => ⟨f, hf, by simp [hfi, hbit]⟩
  · simp [Bits.testBit_eq_false word (Nat.le_of_not_lt hi)]

-- What a word tells of the fields that were combined in it: each value as far as its width goes, and nothing
-- outside of their ranges. A flag of it is a field of one bit.
structure Holds (fields : List BitField) (word : UInt32) : Prop where
  value : ∀ f ∈ fields, (f.range.get word).toNat = f.value.toNat % 2 ^ f.range.count.toNat
  flag : ∀ n : UInt32, n < 32 → Bits.get word n 1 = (Bits.test word n).toUInt32
  rest : ∀ i, (∀ f ∈ fields, ¬f.range.Covers i) → word.toNat.testBit i = false

theorem holds_pack (hdisjoint : (fields.map range).Pairwise BitRange.Disjoint) : Holds fields (pack fields) where
  value f hf := by rw [get_pack hdisjoint hf, Bits.toNat_and_lowMask]
  flag n hn := Bits.get_eq_test _ n (UInt32.lt_iff_toNat_lt.mp hn)
  rest _ := testBit_pack_of_uncovered

-- Fields whose ranges do not overlap leave each other alone, in whatever order they are combined. A word is the
-- combination of its own fields wherever their ranges leave out none of its bits.
theorem pack_faithful (fields : List BitField) (hdisjoint : (fields.map range).Pairwise BitRange.Disjoint) :
    (∀ order : List BitField, order.Perm fields → pack order = pack fields ∧ Holds fields (pack order)) ∧
      ((∀ i < 32, ∃ f ∈ fields, f.range.Covers i) →
        ∀ word, pack (fields.map fun f => ⟨f.range, f.range.get word⟩) = word) := by
  constructor
  · intro order horder
    rw [pack_perm horder]
    exact ⟨rfl, holds_pack hdisjoint⟩
  · exact pack_get

-- Three fields that fill a word. The value of the first is wider than its range.
def brimful : List BitField :=
  [⟨⟨0, 4, by decide, by decide⟩, 0x1f⟩, ⟨⟨24, 8, by decide, by decide⟩, 0x80⟩, ⟨⟨4, 20, by decide, by decide⟩, 0x2a⟩]

theorem pack_faithful_brimful :
    (brimful.map range).Pairwise BitRange.Disjoint ∧ (∀ i < 32, ∃ f ∈ brimful, f.range.Covers i) ∧
      pack brimful.reverse = 0x800002af ∧ Holds brimful 0x800002af ∧
      pack (brimful.map fun f => ⟨f.range, f.range.get 0xdeadbeef⟩) = 0xdeadbeef := by
  have hdisjoint : (brimful.map range).Pairwise BitRange.Disjoint := by decide
  have hcovered : ∀ i < 32, ∃ f ∈ brimful, f.range.Covers i := by decide
  have hword : pack brimful.reverse = 0x800002af := by decide
  obtain ⟨horder, hback⟩ := pack_faithful brimful hdisjoint
  have hholds := (horder brimful.reverse (List.reverse_perm brimful)).2
  rw [hword] at hholds
  exact ⟨hdisjoint, hcovered, hword, hholds, hback hcovered 0xdeadbeef⟩

end BitField

end UwbRanging
