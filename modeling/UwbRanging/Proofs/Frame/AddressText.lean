import UwbRanging.Frame.Address
import UwbRanging.Proofs.Text.Blank
import UwbRanging.Proofs.Text.Hex

namespace UwbRanging

namespace Address

-- What is written in hexadecimal digits alone has nothing around it and no colon in it.
theorem digitsOf_encode (bytes : List UInt8) : digitsOf (Hex.encode bytes) = Hex.encode bytes := by
  have hdigit : ∀ n < 16, Text.isBlank (Hex.digit n) = false ∧ Hex.digit n ≠ ':' := by decide
  have hall : ∀ c ∈ bytes.flatMap Hex.encodeByte, Text.isBlank c = false ∧ c ≠ ':' := by
    intro c hc
    obtain ⟨b, -, hc⟩ := List.mem_flatMap.mp hc
    have hb := b.toNat_lt
    simp only [Hex.encodeByte, List.mem_cons, List.not_mem_nil, or_false] at hc
    rcases hc with rfl | rfl
    · exact hdigit _ (by omega)
    · exact hdigit _ (by omega)
  rw [digitsOf, Hex.encode, String.toList_ofList, Text.trimChars_eq_self fun c hc => (hall c hc).1,
    List.filter_eq_self.mpr]
  intro c hc
  simpa using (hall c hc).2

theorem bytesOf_encode (bytes : List UInt8) : bytesOf (Hex.encode bytes) = .ok bytes := by
  rw [bytesOf, digitsOf_encode, Hex.decode_encode]

theorem bytesOf_of_garbled {text : String} (htext : Hex.Garbled (digitsOf text)) :
    bytesOf text = .error (.invalidHex (digitsOf text)) := by
  obtain ⟨fault, hfault⟩ := Hex.exists_error_of_garbled htext
  rw [bytesOf, hfault]

theorem exists_bytesOf {text : String} (htext : ¬ Hex.Garbled (digitsOf text)) :
    ∃ bytes, bytesOf text = .ok bytes ∧ Hex.encode bytes = (digitsOf text).toLower ∧
      (digitsOf text).length = 2 * bytes.length := by
  obtain ⟨bytes, hdecode, hencode⟩ := Hex.exists_decode htext
  refine ⟨bytes, by rw [bytesOf, hdecode], hencode, ?_⟩
  rw [← Hex.length_encode, hencode]
  exact String.length_map.symm

section Grammar

variable {α : Type} {ofBytes : List UInt8 → Except FrameError α} {bytes : α → List UInt8} {widths : List Nat}

-- A kind of address is its bytes, in the order in which they are printed, and their number alone decides whether
-- bytes make one up. Widths are counted in digits.
structure ByteForm (ofBytes : List UInt8 → Except FrameError α) (bytes : α → List UInt8) (widths : List Nat) :
    Prop where
  even : ∀ width ∈ widths, width % 2 = 0
  ofBytes_bytes : ∀ a, ofBytes (bytes a) = .ok a
  exists_eq : ∀ raw : List UInt8, 2 * raw.length ∈ widths → ∃ a, raw = bytes a
  misfit : ∀ raw : List UInt8, 2 * raw.length ∉ widths → ofBytes raw = .error (.addressLength raw.length)

-- Which texts are read as an address, how an address is printed, and what is said of every other text.
structure Grammar (parse : String → Except FrameError α) (print : α → String) (widths : List Nat) : Prop where
  accepts : ∀ text, (∃ a, parse text = .ok a) ↔ Hex.Digits (digitsOf text) ∧ (digitsOf text).length ∈ widths
  prints : ∀ text a, parse text = .ok a → print a = (digitsOf text).toLower
  reads : ∀ a, parse (print a) = .ok a
  garbled : ∀ text, Hex.Garbled (digitsOf text) → parse text = .error (.invalidHex (digitsOf text))
  misfit : ∀ text, ¬ Hex.Garbled (digitsOf text) → (digitsOf text).length ∉ widths →
    parse text = .error (.addressLength ((digitsOf text).length / 2))

variable {text : String}

theorem ByteForm.exists_ok (form : ByteForm ofBytes bytes widths) (htext : ¬ Hex.Garbled (digitsOf text))
    (hwidth : (digitsOf text).length ∈ widths) :
    ∃ a, (bytesOf text >>= ofBytes) = .ok a ∧ Hex.encode (bytes a) = (digitsOf text).toLower := by
  obtain ⟨raw, hraw, hencode, hlength⟩ := exists_bytesOf htext
  obtain ⟨a, rfl⟩ := form.exists_eq raw (hlength ▸ hwidth)
  refine ⟨a, ?_, hencode⟩
  rw [hraw]
  exact form.ofBytes_bytes a

theorem ByteForm.eq_error (form : ByteForm ofBytes bytes widths) (htext : ¬ Hex.Garbled (digitsOf text))
    (hwidth : (digitsOf text).length ∉ widths) :
    (bytesOf text >>= ofBytes) = .error (.addressLength ((digitsOf text).length / 2)) := by
  obtain ⟨raw, hraw, -, hlength⟩ := exists_bytesOf htext
  have hcount : (digitsOf text).length / 2 = raw.length := by omega
  rw [hraw, hcount]
  exact form.misfit raw (hlength ▸ hwidth)

theorem eq_error_of_garbled (htext : Hex.Garbled (digitsOf text)) :
    (bytesOf text >>= ofBytes) = .error (.invalidHex (digitsOf text)) := by
  rw [bytesOf_of_garbled htext]
  rfl

-- The digits are checked before their number, and each of the two checks refuses with an error of its own.
theorem ByteForm.not_garbled_of_ok (form : ByteForm ofBytes bytes widths) {a : α}
    (h : (bytesOf text >>= ofBytes) = .ok a) : ¬ Hex.Garbled (digitsOf text) ∧ (digitsOf text).length ∈ widths := by
  have hclear : ¬ Hex.Garbled (digitsOf text) := by
    intro hgarbled
    rw [eq_error_of_garbled hgarbled] at h
    cases h
  refine ⟨hclear, ?_⟩
  by_contra hwidth
  rw [form.eq_error hclear hwidth] at h
  cases h

theorem ByteForm.grammar (form : ByteForm ofBytes bytes widths) :
    Grammar (fun text => bytesOf text >>= ofBytes) (fun a => Hex.encode (bytes a)) widths where
  accepts text := by
    constructor
    · rintro ⟨a, h⟩
      obtain ⟨hclear, hwidth⟩ := form.not_garbled_of_ok h
      exact ⟨(Hex.not_garbled_iff.mp hclear).1, hwidth⟩
    · rintro ⟨hdigits, hwidth⟩
      obtain ⟨a, h, -⟩ := form.exists_ok (Hex.not_garbled_iff.mpr ⟨hdigits, form.even _ hwidth⟩) hwidth
      exact ⟨a, h⟩
  prints text a h := by
    obtain ⟨hclear, hwidth⟩ := form.not_garbled_of_ok h
    obtain ⟨b, h', hencode⟩ := form.exists_ok hclear hwidth
    cases Except.ok.inj (h.symm.trans h')
    exact hencode
  reads a := by
    rw [bytesOf_encode]
    exact form.ofBytes_bytes a
  garbled _ := eq_error_of_garbled
  misfit _ := form.eq_error

end Grammar

end Address

namespace Eui64

theorem toWire_ofWire {raw : List UInt8} (hraw : raw.length = 8) : (ofWire raw).toWire = raw := by
  rw [toWire, ofWire, UInt64.toNat_ofNat']
  change LittleEndian.encode 8 (LittleEndian.decode raw % LittleEndian.span 8) = raw
  rw [LittleEndian.encode_mod, ← hraw, LittleEndian.encode_decode]

theorem bytes_ofBytes {raw : List UInt8} (hraw : raw.length = 8) : (ofBytes raw).bytes = raw := by
  rw [bytes, ofBytes, toWire_ofWire (by rwa [List.length_reverse]), List.reverse_reverse]

theorem ofBytes_bytes (e : Eui64) : ofBytes e.bytes = e := by
  rw [ofBytes, bytes, List.reverse_reverse, ofWire_toWire]

theorem length_bytes (e : Eui64) : e.bytes.length = 8 := by
  rw [bytes, List.length_reverse, length_toWire]

-- The device address of eight bytes, and of no other number of them.
def ofExactly (raw : List UInt8) : Except FrameError Eui64 :=
  if raw.length = 8 then return ofBytes raw else throw (.addressLength raw.length)

theorem byteForm : Address.ByteForm ofExactly bytes [16] where
  even := by decide
  ofBytes_bytes e := by
    rw [ofExactly, if_pos e.length_bytes, e.ofBytes_bytes]
    rfl
  exists_eq raw hraw := by
    have hlength : raw.length = 8 := Nat.mul_left_cancel (by decide) (List.mem_singleton.mp hraw)
    exact ⟨ofBytes raw, (bytes_ofBytes hlength).symm⟩
  misfit raw hraw := by
    have hlength : raw.length ≠ 8 := by
      rintro h
      simp [h] at hraw
    exact if_neg hlength

theorem grammar : Address.Grammar parse text [16] := byteForm.grammar

theorem parse_text (e : Eui64) : parse e.text = .ok e := grammar.reads e

end Eui64

namespace Address

theorem length_bytes (a : Address) : a.bytes.length = a.length := by
  rw [bytes, List.length_reverse, length_toWire]

theorem ofBytes_bytes (a : Address) : ofBytes a.bytes = .ok a := by
  cases a with
  | short v =>
    have hvalue : LittleEndian.decode (short v).bytes.reverse = v.toNat := by
      have hlt : v.toNat < LittleEndian.span 2 := v.toNat_lt
      rw [bytes, List.reverse_reverse, toWire, LittleEndian.decode_encode, Nat.mod_eq_of_lt hlt]
    simp only [ofBytes, length_bytes, length, mode, AddressMode.length, hvalue, UInt16.ofNat_toNat]
  | extended e =>
    simp only [ofBytes, length_bytes, length, mode, AddressMode.length]
    exact congrArg (fun e => Except.ok (extended e)) e.ofBytes_bytes

theorem bytes_short {raw : List UInt8} (hraw : raw.length = 2) :
    (short (UInt16.ofNat (LittleEndian.decode raw.reverse))).bytes = raw := by
  have hlength : raw.reverse.length = 2 := by rwa [List.length_reverse]
  rw [bytes, toWire, UInt16.toNat_ofNat']
  change (LittleEndian.encode 2 (LittleEndian.decode raw.reverse % LittleEndian.span 2)).reverse = raw
  rw [LittleEndian.encode_mod, ← hlength, LittleEndian.encode_decode, List.reverse_reverse]

theorem byteForm : ByteForm ofBytes bytes [4, 16] where
  even := by decide
  ofBytes_bytes := ofBytes_bytes
  exists_eq raw hraw := by
    have hlength : raw.length = 2 ∨ raw.length = 8 := by
      simp only [List.mem_cons, List.not_mem_nil, or_false] at hraw
      omega
    rcases hlength with hlength | hlength
    · exact ⟨_, (bytes_short hlength).symm⟩
    · exact ⟨extended (Eui64.ofBytes raw), (Eui64.bytes_ofBytes hlength).symm⟩
  misfit raw hraw := by
    simp only [List.mem_cons, List.not_mem_nil, or_false, not_or] at hraw
    unfold ofBytes
    split
    · omega
    · omega
    · rfl

theorem grammar : Grammar parse text [4, 16] := byteForm.grammar

-- One grammar for both kinds of address: their digits are what the text leaves without the blanks around it and
-- without its colons, and only the numbers of digits that are allowed differ.
theorem text_grammar :
    (∀ text : String, ∃ core, Text.IsTrimmed text.toList core ∧
      digitsOf text = String.ofList (core.filter (· != ':'))) ∧
    Grammar parse text [4, 16] ∧ Grammar Eui64.parse Eui64.text [16] :=
  ⟨fun text => ⟨Text.trimChars text.toList, Text.isTrimmed_trimChars text.toList, rfl⟩, grammar, Eui64.grammar⟩

-- Colons may stand anywhere, blanks only around the digits.
example : parse "\u00a0A:b:Cd\n" = .ok (short 0xabcd) ∧ parse "ab cd" = .error (.invalidHex "ab cd") := by
  decide +kernel

end Address

end UwbRanging
