import UwbRanging.Text.Utf8

namespace UwbRanging.Text

-- The bytes of an array from one place on, behind those that were taken before it in reverse.
theorem toList_loop (bytes : ByteArray) (i : Nat) (taken : List UInt8) :
    ByteArray.toList.loop bytes i taken = taken.reverse ++ bytes.data.toList.drop i := by
  induction i, taken using ByteArray.toList.loop.induct bytes with
  | case1 i taken hi ih =>
    rw [ByteArray.toList.loop, if_pos hi, ih]
    have hdrop : bytes.data.toList.drop i = bytes.get! i :: bytes.data.toList.drop (i + 1) := by
      rw [List.drop_eq_getElem_cons (by simpa using hi)]
      simp [ByteArray.get!, hi]
    rw [hdrop, List.reverse_cons, List.append_assoc, List.singleton_append]
  | case2 i taken hi =>
    rw [ByteArray.toList.loop, if_neg hi, List.drop_eq_nil_of_le, List.append_nil]
    simpa using hi

theorem encodeUtf8_ofList (cs : List Char) : encodeUtf8 (String.ofList cs) = cs.flatMap String.utf8EncodeChar := by
  change ByteArray.toList.loop cs.utf8Encode 0 [] = _
  rw [toList_loop, List.reverse_nil, List.nil_append, List.drop_zero, List.utf8Encode, List.toList_data_toByteArray]

theorem scalar_toNat {least : Nat} {c : Char} (hc : least ≤ c.val.toNat) : scalar least c.val.toNat = some c := by
  have hvalid : c.val.toNat.isValidChar := c.valid
  rw [scalar, dif_pos hvalid, if_pos hc]
  rfl

section Bytes

variable {n : Nat} (rest : List UInt8)

theorem toNat_byte (hn : n < 0x100) : (UInt8.ofNat n).toNat = n := by
  rw [UInt8.toNat_ofNat']
  exact Nat.mod_eq_of_lt hn

theorem byte_lt_iff (hn : n < 0x100) (bound : UInt8) : UInt8.ofNat n < bound ↔ n < bound.toNat := by
  rw [UInt8.lt_iff_toNat_lt, toNat_byte hn]

theorem continuation_byte (n : Nat) : continuation (UInt8.ofNat (n % 64 + 128)) = some (n % 64) := by
  have hn : n % 64 < 64 := Nat.mod_lt n (by decide)
  have hlow : (0x80 : UInt8) ≤ UInt8.ofNat (n % 64 + 128) := by
    rw [UInt8.le_iff_toNat_le, toNat_byte (by omega)]
    exact Nat.le_add_left _ _
  have hhigh : UInt8.ofNat (n % 64 + 128) ≤ 0xbf := by
    rw [UInt8.le_iff_toNat_le, toNat_byte (by omega)]
    exact Nat.le_of_lt_succ (Nat.add_lt_add_right hn 128)
  rw [continuation, if_pos ⟨hlow, hhigh⟩, toNat_byte (by omega), Nat.add_sub_cancel]

theorem leading_one (hn : n < 0x80) : leading (UInt8.ofNat n) rest = (scalar 0 n).map (·, 0) := by
  have hsmall : UInt8.ofNat n < 0x80 := (byte_lt_iff (by omega) _).mpr hn
  rw [leading, if_pos hsmall, toNat_byte (by omega)]
  exact Option.map_eq_bind.symm

theorem leading_two (hn : n < 0x800) :
    leading (UInt8.ofNat (n / 64 % 32 + 192)) (UInt8.ofNat (n % 64 + 128) :: rest) = (scalar 0x80 n).map (·, 1) := by
  have hfirst : n / 64 % 32 + 192 < 0x100 := by omega
  have hone : ¬ UInt8.ofNat (n / 64 % 32 + 192) < 0x80 := by
    rw [byte_lt_iff hfirst]
    exact Nat.not_lt.mpr (Nat.le_trans (by decide) (Nat.le_add_left 192 _))
  have htwo : UInt8.ofNat (n / 64 % 32 + 192) < 0xe0 := by
    rw [byte_lt_iff hfirst]
    change _ < 0xe0
    omega
  have hvalue : (n / 64 % 32 + 192 - 192) * 64 + n % 64 = n := by omega
  rw [leading, if_neg hone, if_pos htwo, toNat_byte hfirst]
  simp only [List.getElem?_cons_zero, Option.bind_eq_bind, Option.bind_some, continuation_byte, hvalue]
  exact Option.map_eq_bind.symm

theorem leading_three (hn : n < 0x10000) :
    leading (UInt8.ofNat (n / 4096 % 16 + 224)) (UInt8.ofNat (n / 64 % 64 + 128) :: UInt8.ofNat (n % 64 + 128) :: rest) =
      (scalar 0x800 n).map (·, 2) := by
  have hfirst : n / 4096 % 16 + 224 < 0x100 := by omega
  have hlong (bound : UInt8) (hbound : bound.toNat ≤ 224) : ¬ UInt8.ofNat (n / 4096 % 16 + 224) < bound := by
    rw [byte_lt_iff hfirst]
    omega
  have hthree : UInt8.ofNat (n / 4096 % 16 + 224) < 0xf0 := by
    rw [byte_lt_iff hfirst]
    change _ < 0xf0
    omega
  have hvalue : ((n / 4096 % 16 + 224 - 224) * 64 + n / 64 % 64) * 64 + n % 64 = n := by omega
  rw [leading, if_neg (hlong _ (by decide)), if_neg (hlong _ (by decide)), if_pos hthree, toNat_byte hfirst]
  simp only [List.getElem?_cons_zero, List.getElem?_cons_succ, Option.bind_eq_bind, Option.bind_some,
    continuation_byte, hvalue]
  exact Option.map_eq_bind.symm

theorem leading_four (hn : n < 0x200000) :
    leading (UInt8.ofNat (n / 262144 % 8 + 240)) (UInt8.ofNat (n / 4096 % 64 + 128) ::
      UInt8.ofNat (n / 64 % 64 + 128) :: UInt8.ofNat (n % 64 + 128) :: rest) = (scalar 0x10000 n).map (·, 3) := by
  have hfirst : n / 262144 % 8 + 240 < 0x100 := by omega
  have hlong (bound : UInt8) (hbound : bound.toNat ≤ 240) : ¬ UInt8.ofNat (n / 262144 % 8 + 240) < bound := by
    rw [byte_lt_iff hfirst]
    omega
  have hvalue : (((n / 262144 % 8 + 240 - 240) * 64 + n / 4096 % 64) * 64 + n / 64 % 64) * 64 + n % 64 = n := by omega
  rw [leading, if_neg (hlong _ (by decide)), if_neg (hlong _ (by decide)), if_neg (hlong _ (by decide)),
    toNat_byte hfirst]
  simp only [List.getElem?_cons_zero, List.getElem?_cons_succ, Option.bind_eq_bind, Option.bind_some,
    continuation_byte, hvalue]
  exact Option.map_eq_bind.symm

end Bytes

-- What is encoded as one character is read as that character, with as many bytes after the first.
theorem exists_leading (c : Char) (rest : List UInt8) :
    ∃ first others, String.utf8EncodeChar c = first :: others ∧
      leading first (others ++ rest) = some (c, others.length) := by
  have hencode := String.utf8EncodeChar.eq_1 c
  have htop : c.val.toNat < 0x110000 := by
    have hvalid : c.val.toNat.isValidChar := c.valid
    unfold Nat.isValidChar at hvalid
    omega
  split at hencode
  case isTrue hone =>
    refine ⟨_, _, hencode, (leading_one _ (Nat.lt_succ_of_le hone)).trans ?_⟩
    rw [scalar_toNat (Nat.zero_le _)]
    rfl
  case isFalse hone =>
  split at hencode
  case isTrue htwo =>
    refine ⟨_, _, hencode, (leading_two _ (Nat.lt_succ_of_le htwo)).trans ?_⟩
    rw [scalar_toNat (by omega)]
    rfl
  case isFalse htwo =>
  split at hencode
  case isTrue hthree =>
    refine ⟨_, _, hencode, (leading_three _ (Nat.lt_succ_of_le hthree)).trans ?_⟩
    rw [scalar_toNat (by omega)]
    rfl
  case isFalse hthree =>
    refine ⟨_, _, hencode, (leading_four _ (by omega)).trans ?_⟩
    rw [scalar_toNat (by omega)]
    rfl

theorem glyphsAfter_append (skipped rest : List UInt8) :
    glyphsAfter skipped.length (skipped ++ rest) = glyphsAfter 0 rest := by
  induction skipped with
  | nil => rfl
  | cons byte skipped ih => exact ih

-- A text is read back from its bytes, character by character.
theorem glyphs_encodeUtf8 (cs : List Char) : glyphs (encodeUtf8 (String.ofList cs)) = cs.map some := by
  rw [glyphs, encodeUtf8_ofList]
  induction cs with
  | nil => rfl
  | cons c cs ih =>
    obtain ⟨first, others, hencode, hleading⟩ := exists_leading c (cs.flatMap String.utf8EncodeChar)
    rw [List.flatMap_cons, hencode, List.cons_append, glyphsAfter, hleading]
    rw [List.map_cons, ← ih]
    exact congrArg (some c :: ·) (glyphsAfter_append others _)

end UwbRanging.Text
