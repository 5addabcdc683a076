import Mathlib.Data.List.Basic
import UwbRanging.Proofs.Text.Utf8
import UwbRanging.Text.Hex

namespace UwbRanging.Hex

-- The byte of a digit.
def digitByte (n : Nat) : UInt8 := UInt8.ofNat (digit n).toNat

theorem utf8EncodeChar_digit : ∀ n < 16, String.utf8EncodeChar (digit n) = [digitByte n] := by decide

theorem digitValue?_digitByte : ∀ n < 16, digitValue? (digitByte n) = some n := by decide

theorem encodeUtf8_encode (bytes : List UInt8) : Text.encodeUtf8 (encode bytes) =
    bytes.flatMap fun b => [digitByte (b.toNat / 16), digitByte (b.toNat % 16)] := by
  rw [encode, Text.encodeUtf8_ofList, List.flatMap_assoc]
  congr 1
  funext b
  have hb := b.toNat_lt
  rw [encodeByte, List.flatMap_cons, List.flatMap_cons, List.flatMap_nil, utf8EncodeChar_digit _ (by omega),
    utf8EncodeChar_digit _ (by omega)]
  rfl

theorem decodePairs_digits (place : Nat) (bytes : List UInt8) : decodePairs place
    (bytes.flatMap fun b => [digitByte (b.toNat / 16), digitByte (b.toNat % 16)]) = .ok bytes := by
  induction bytes generalizing place with
  | nil => rfl
  | cons b rest ih =>
    have hb := b.toNat_lt
    have hvalue : UInt8.ofNat (16 * (b.toNat / 16) + b.toNat % 16) = b := by rw [Nat.div_add_mod, UInt8.ofNat_toNat]
    rw [List.flatMap_cons, List.cons_append, List.cons_append, List.nil_append, decodePairs]
    simp only [digitValue?_digitByte (b.toNat / 16) (by omega), digitValue?_digitByte (b.toNat % 16) (by omega), ih,
      hvalue]
    rfl

-- Bytes are read back from their digits.
theorem decode_encode (bytes : List UInt8) : decode (encode bytes) = .ok bytes := by
  have heven : (Text.encodeUtf8 (encode bytes)).length % 2 ≠ 1 := by
    simp [encodeUtf8_encode, List.length_flatMap, List.map_const']
  change decodeBytes (Text.encodeUtf8 (encode bytes)) = _
  rw [decodeBytes, if_neg heven, encodeUtf8_encode]
  exact decodePairs_digits 0 bytes

-- Of an even number of digits none is passed over.
theorem isSome_of_decodePairs {place : Nat} {text bytes : List UInt8} (heven : text.length % 2 = 0)
    (h : decodePairs place text = .ok bytes) : ∀ digit ∈ text, (digitValue? digit).isSome := by
  induction place, text using decodePairs.induct generalizing bytes with
  | case1 place high low rest hhigh => simp [decodePairs, hhigh] at h
  | case2 place high low rest value hlow hhigh => simp [decodePairs, hlow, hhigh] at h
  | case3 place high low rest value value' hlow hhigh ih =>
    simp only [decodePairs, hlow, hhigh] at h
    cases hrest : decodePairs (place + 2) rest with
    | error fault => rw [hrest] at h; cases h
    | ok decoded =>
      have hlength : rest.length % 2 = 0 := by
        simp only [List.length_cons] at heven
        omega
      simpa [hlow, hhigh] using ih hlength hrest
  | case4 text place hshort =>
    match text with
    | [] => simp
    | [digit] => simp at heven
    | high :: low :: rest => exact (hshort high low rest rfl).elim

-- A text of an odd length or with a byte that is no digit is refused.
theorem exists_error {text : String} (h : text.toUTF8.toList.length % 2 = 1 ∨
    ∃ digit ∈ text.toUTF8.toList, digitValue? digit = none) : ∃ fault, decode text = .error fault := by
  unfold decode decodeBytes
  split
  · exact ⟨.oddLength, rfl⟩
  · rename_i hodd
    obtain ⟨digit, hdigit, hforeign⟩ := h.resolve_left hodd
    cases hpairs : decodePairs 0 text.toUTF8.toList with
    | error fault => exact ⟨fault, rfl⟩
    | ok bytes =>
      have hsome := isSome_of_decodePairs (by omega) hpairs digit hdigit
      rw [hforeign] at hsome
      cases hsome

theorem length_encode (bytes : List UInt8) : (encode bytes).length = 2 * bytes.length := by
  rw [encode, String.length_ofList, List.length_flatMap]
  change (bytes.map fun _ => 2).sum = _
  rw [List.map_const', List.sum_replicate_nat, Nat.mul_comm]

-- The digits of either case.
def digitChars : List Char := lowerDigits ++ ['A', 'B', 'C', 'D', 'E', 'F']

-- Nothing but digits.
def Digits (text : String) : Prop := ∀ c ∈ text.toList, c ∈ digitChars

-- Bytes that no digit pairs make up: their number is odd or one of them is no digit.
def Garbled (text : String) : Prop :=
  (Text.encodeUtf8 text).length % 2 = 1 ∨ ∃ byte ∈ Text.encodeUtf8 text, Char.ofNat byte.toNat ∉ digitChars

-- The digits are checked one by one. Deciding the statement itself may go through every character there is.
theorem forall_digits {p : Char → Prop} [DecidablePred p] (h : digitChars.all fun c => p c) :
    ∀ c ∈ digitChars, p c := by
  simpa using h

theorem utf8EncodeChar_of_mem : ∀ c ∈ digitChars, String.utf8EncodeChar c = [UInt8.ofNat c.toNat] :=
  forall_digits (by decide)

theorem toNat_lt_of_mem : ∀ c ∈ digitChars, c.toNat < 0x80 := forall_digits (by decide)

theorem exists_digitValue? : ∀ c ∈ digitChars,
    ∃ value < 16, digitValue? (UInt8.ofNat c.toNat) = some value ∧ digit value = c.toLower := forall_digits (by decide)

theorem digitValue?_eq_none_iff (byte : UInt8) :
    digitValue? byte = none ↔ Char.ofNat byte.toNat ∉ digitChars := by
  have hall : ∀ n < 256, digitValue? (UInt8.ofNat n) = none ↔ Char.ofNat n ∉ digitChars := by decide +kernel
  simpa using hall byte.toNat byte.toNat_lt

theorem exists_error_of_garbled {text : String} (htext : Garbled text) : ∃ fault, decode text = .error fault :=
  exists_error (htext.imp_right fun ⟨byte, hbyte, hforeign⟩ =>
    ⟨byte, hbyte, (digitValue?_eq_none_iff byte).mpr hforeign⟩)

-- A character whose first byte is a digit is that digit.
theorem eq_of_first {c : Char} {first : UInt8} {others : List UInt8} (hc : String.utf8EncodeChar c = first :: others)
    (hfirst : Char.ofNat first.toNat ∈ digitChars) : c = Char.ofNat first.toNat := by
  obtain ⟨_, _, hencode, hleading⟩ := Text.exists_leading c []
  obtain ⟨rfl, rfl⟩ := List.cons.inj (hc.symm.trans hencode)
  have hvalid : first.toNat.isValidChar := .inl (Nat.lt_trans first.toNat_lt (by decide))
  have hchar : Char.ofNat first.toNat = Char.ofNatAux first.toNat hvalid := dif_pos hvalid
  have hsmall : first < 0x80 := by
    have hlt := toNat_lt_of_mem _ hfirst
    rw [hchar] at hlt
    exact UInt8.lt_iff_toNat_lt.mpr hlt
  rw [Text.leading, if_pos hsmall, Text.scalar, dif_pos hvalid, if_pos (Nat.zero_le _), ← hchar] at hleading
  exact (Prod.mk.inj (Option.some.inj hleading)).1.symm

theorem exists_foreign {c : Char} (hc : c ∉ digitChars) :
    ∃ byte ∈ String.utf8EncodeChar c, Char.ofNat byte.toNat ∉ digitChars := by
  obtain ⟨first, others, hencode, -⟩ := Text.exists_leading c []
  refine ⟨first, hencode ▸ List.mem_cons_self, fun hfirst => hc ?_⟩
  rwa [eq_of_first hencode hfirst]

theorem encodeUtf8_toList (text : String) : Text.encodeUtf8 text = text.toList.flatMap String.utf8EncodeChar := by
  rw [← Text.encodeUtf8_ofList, String.ofList_toList]

-- Each digit takes one byte.
theorem encodeUtf8_of_digits {text : String} (htext : Digits text) :
    Text.encodeUtf8 text = text.toList.map fun c => UInt8.ofNat c.toNat := by
  rw [encodeUtf8_toList, List.map_eq_flatMap]
  exact List.flatMap_congr fun c hc => utf8EncodeChar_of_mem c (htext c hc)

theorem not_garbled_iff {text : String} : ¬ Garbled text ↔ Digits text ∧ text.length % 2 = 0 := by
  have hlength (htext : Digits text) : (Text.encodeUtf8 text).length = text.length := by
    rw [encodeUtf8_of_digits htext, List.length_map, String.length_toList]
  constructor
  · intro hclear
    have htext : Digits text := by
      intro c hc
      by_contra hforeign
      obtain ⟨byte, hbyte, hforeign⟩ := exists_foreign hforeign
      refine hclear (.inr ⟨byte, ?_, hforeign⟩)
      rw [encodeUtf8_toList]
      exact List.mem_flatMap_of_mem hc hbyte
    refine ⟨htext, ?_⟩
    rw [← hlength htext]
    exact Nat.mod_two_ne_one.mp fun hodd => hclear (.inl hodd)
  · rintro ⟨htext, heven⟩ (hodd | ⟨byte, hbyte, hforeign⟩)
    · rw [hlength htext] at hodd
      omega
    · rw [encodeUtf8_of_digits htext] at hbyte
      obtain ⟨c, hc, rfl⟩ := List.mem_map.mp hbyte
      obtain ⟨value, -, hvalue, -⟩ := exists_digitValue? c (htext c hc)
      rw [(digitValue?_eq_none_iff _).mpr hforeign] at hvalue
      cases hvalue

-- Of an even number of digits each pair gives a byte, whose own digits are the pair in lower case.
theorem exists_decodePairs (place : Nat) : ∀ cs : List Char, (∀ c ∈ cs, c ∈ digitChars) → cs.length % 2 = 0 →
    ∃ bytes, decodePairs place (cs.map fun c => UInt8.ofNat c.toNat) = .ok bytes ∧
      bytes.flatMap encodeByte = cs.map Char.toLower
  | [], _, _ => ⟨[], rfl, rfl⟩
  | [_], _, heven => by simp at heven
  | high :: low :: rest, hdigits, heven => by
    have hlength : rest.length % 2 = 0 := by
      simp only [List.length_cons] at heven
      omega
    obtain ⟨bytes, hrest, hlower⟩ := exists_decodePairs (place + 2) rest
      (fun c hc => hdigits c (List.mem_cons_of_mem _ (List.mem_cons_of_mem _ hc))) hlength
    obtain ⟨h, hlt, hhigh, hdigit⟩ := exists_digitValue? high (hdigits high List.mem_cons_self)
    obtain ⟨l, hlt', hlow, hdigit'⟩ := exists_digitValue? low (hdigits low (List.mem_cons_of_mem _ List.mem_cons_self))
    have hbyte : (UInt8.ofNat (16 * h + l)).toNat = 16 * h + l := Text.toNat_byte (by omega)
    have hpair : encodeByte (UInt8.ofNat (16 * h + l)) = [high.toLower, low.toLower] := by
      rw [encodeByte, hbyte, ← hdigit, ← hdigit']
      congr 3 <;> omega
    refine ⟨UInt8.ofNat (16 * h + l) :: bytes, ?_, ?_⟩
    · simp only [List.map_cons, decodePairs, hhigh, hlow, hrest]
      rfl
    · rw [List.flatMap_cons, hpair, hlower]
      rfl

-- A text that is not garbled gives bytes, whose own digits are that text in lower case.
theorem exists_decode {text : String} (htext : ¬ Garbled text) :
    ∃ bytes, decode text = .ok bytes ∧ encode bytes = text.toLower := by
  obtain ⟨hdigits, heven⟩ := not_garbled_iff.mp htext
  obtain ⟨bytes, hpairs, hlower⟩ := exists_decodePairs 0 text.toList hdigits (by rwa [String.length_toList])
  have hbytes : ¬ (Text.encodeUtf8 text).length % 2 = 1 := fun hodd => htext (.inl hodd)
  refine ⟨bytes, ?_, ?_⟩
  · change decodeBytes (Text.encodeUtf8 text) = _
    rw [decodeBytes, if_neg hbytes, encodeUtf8_of_digits hdigits, hpairs]
  · change encode bytes = text.map Char.toLower
    rw [encode, hlower, ← String.toList_inj, String.toList_ofList, String.toList_map]

end UwbRanging.Hex
