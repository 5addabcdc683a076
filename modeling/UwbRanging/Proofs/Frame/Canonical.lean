import UwbRanging.Proofs.Frame.Accepts
import UwbRanging.Proofs.Frame.Steady

namespace UwbRanging

theorem PayloadType.eq_bits_of_ofBits {n : UInt8} {type : PayloadType} (h : ofBits n = some type) : n = type.bits := by
  unfold ofBits at h
  split at h <;> cases h <;> rfl

namespace Payload

theorem testBit_nibble (byte : UInt8) (offset : UInt32) (ho : offset.toNat < 32) (k : Nat) :
    (Bits.get byte.toUInt32 offset 4).toUInt8.toNat.testBit k
      = (byte.toNat.testBit (offset.toNat + k) && decide (k < 4)) := by
  rw [UInt32.toNat_toUInt8, Nat.testBit_mod_two_pow, Bits.testBit_get _ _ _ ho, UInt8.toNat_toUInt32,
    show (4 : UInt32).toNat = 4 by decide]
  by_cases hk : k < 4
  · simp [hk, show k < 8 by omega]
  · simp [hk]

theorem nibble_lt (byte : UInt8) : (Bits.get byte.toUInt32 0 4).toUInt8 < 16 := by
  apply UInt8.lt_iff_toNat_lt.mpr
  rw [Bits.toNat_toUInt8_get _ _ (by decide)]
  exact Bits.get_lt byte.toUInt32 0 4

theorem testBit_typeByte (type : PayloadType) (subtype : UInt8) (k : Nat) :
    (typeByte type subtype).toNat.testBit k
      = if k < 4 then subtype.toNat.testBit k else type.bits.toNat.testBit (k - 4) := by
  have hbits : type.bits.toNat < 2 ^ 4 := by cases type <;> decide
  rw [typeByte, UInt32.toNat_toUInt8, Nat.testBit_mod_two_pow, UInt32.toNat_or, Nat.testBit_or,
    Bits.testBit_place _ _ _ (by decide), Bits.testBit_place _ _ _ (by decide), UInt8.toNat_toUInt32,
    UInt8.toNat_toUInt32, show (4 : UInt32).toNat = 4 by decide, show (0 : UInt32).toNat = 0 by decide]
  by_cases hlow : k < 4
  · simp [hlow, show k < 8 by omega, show k < 32 by omega, show ¬4 ≤ k by omega]
  · by_cases hhigh : k < 8
    · simp [hlow, hhigh, show k < 32 by omega, show 4 ≤ k by omega]
    · have hle : 2 ^ 4 ≤ 2 ^ (k - 4) := Nat.pow_le_pow_right (by decide) (by omega)
      simp [hlow, hhigh, Nat.testBit_lt_two_pow (Nat.lt_of_lt_of_le hbits hle)]

-- A type byte is its two halves.
theorem typeByte_nibbles {byte : UInt8} {type : PayloadType}
    (h : PayloadType.ofBits (Bits.get byte.toUInt32 4 4).toUInt8 = some type) :
    typeByte type (Bits.get byte.toUInt32 0 4).toUInt8 = byte := by
  apply UInt8.toNat_inj.mp
  apply Nat.eq_of_testBit_eq
  intro k
  rw [testBit_typeByte, ← PayloadType.eq_bits_of_ofBits h, testBit_nibble byte 0 (by decide),
    testBit_nibble byte 4 (by decide), show (4 : UInt32).toNat = 4 by decide, show (0 : UInt32).toNat = 0 by decide]
  by_cases hlow : k < 4
  · simp [hlow]
  · by_cases hhigh : k < 8
    · simp [hlow, show 4 + (k - 4) = k by omega, show k - 4 < 4 by omega]
    · simp [hlow, Bits.testBit_byte_eq_false byte (show 8 ≤ k by omega), show ¬k - 4 < 4 by omega]

-- The bits of a payload's bytes that carry no field. Byte 1 holds type and subtype, and the body follows.
def Idle : Payload → Nat → Nat → Prop
  | blink _, i, k => i = 1 ∧ k = 0 ∨ i = 2 ∧ k < 4
  | rangingResponse r, i, k => i = 1 ∧ k < 3 ∨ r.Idle (i - 2) k
  | timing t, i, k => t.Idle (i - 2) k
  | beacon _, _, _ => False
  | rangingRequest _, _, _ => False
  | configRequest _, _, _ => False
  | configResponse _, _, _ => False
  | encrypted _, _, _ => False
  | raw _, _, _ => False

theorem sameBits_tagged {type : PayloadType} {subtype subtype' : UInt8} {body body' : List UInt8}
    {idle : Nat → Nat → Prop}
    (hsubtype : ∀ k < 4, ¬idle 1 k → subtype.toNat.testBit k = subtype'.toNat.testBit k)
    (hbody : SameBits (fun i => idle (i + 2)) body body') :
    SameBits idle (tagged type subtype body) (tagged type subtype' body') := by
  refine SameBits.cons (fun k _ => rfl) (SameBits.cons (fun k hk => ?_) hbody)
  rw [testBit_typeByte, testBit_typeByte]
  by_cases hlow : k < 4
  · rw [if_pos hlow, if_pos hlow, hsubtype k hlow hk]
  · rw [if_neg hlow, if_neg hlow]

-- The payload is written back as the bytes that it was read from, up to idle bits. A timing report has
-- to have an entry for that: without one, its bytes may announce what it does not hold.
structure Restores (bytes : List UInt8) (p : Payload) : Prop where
  tagged : p.type?.isSome
  wellFormed : p.WellFormed
  written : ∃ canonical, p.encode = .ok canonical ∧ canonical.length ≤ bytes.length ∧
    ((∀ t, p = timing t → t.entries ≠ []) → SameBits p.Idle bytes canonical)

theorem Restores.of_sameBits {bytes canonical : List UInt8} {p : Payload} (htagged : p.type?.isSome)
    (hw : p.WellFormed) (hencode : p.encode = .ok canonical) (hsame : SameBits p.Idle bytes canonical) :
    Restores bytes p :=
  ⟨htagged, hw, canonical, hencode, Nat.le_of_eq hsame.length.symm, fun _ => hsame⟩

theorem blink_restores {subtype : UInt8} {body : List UInt8} {b : Blink} (hw : b.WellFormed)
    (hcookie : Bits.test subtype.toUInt32 3 = b.cookie.isSome)
    (helements : Bits.test subtype.toUInt32 2 = b.elements.isSome) (hextended : Bits.test subtype.toUInt32 1 = false)
    {written : List UInt8} (hwritten : b.encodeBody = .ok written)
    (hsame : SameBits (fun i k => i = 0 ∧ k < 4) body written) :
    Restores (tagged .blink subtype body) (blink b) := by
  obtain ⟨hcookie', helements', hextended'⟩ := b.subtype_fields
  have h3 := Bits.testBit_eq_of_test 3 (by decide) (hcookie.trans hcookie'.symm)
  have h2 := Bits.testBit_eq_of_test 2 (by decide) (helements.trans helements'.symm)
  have h1 := Bits.testBit_eq_of_test 1 (by decide) (hextended.trans hextended'.symm)
  have hencode : (blink b).encode = .ok (tagged .blink b.subtype written) := by rw [encode, hwritten]; rfl
  refine .of_sameBits rfl hw hencode ?_
  refine sameBits_tagged (fun k hk hidle => ?_) (hsame.mono fun i k h => .inr ⟨by omega, h.2⟩)
  have hcases : k = 0 ∨ k = 1 ∨ k = 2 ∨ k = 3 := by omega
  rcases hcases with rfl | rfl | rfl | rfl
  · exact (hidle (.inl ⟨rfl, rfl⟩)).elim
  · exact h1
  · exact h2
  · exact h3

theorem rangingResponse_restores {subtype : UInt8} {body : List UInt8} {r : RangingResponse} (hw : r.WellFormed)
    (hpeers : r.rxTimes.isSome = !Bits.test subtype.toUInt32 3) {written : List UInt8}
    (hwritten : r.encodeBody = .ok written) (hsame : SameBits r.Idle body written) :
    Restores (tagged .rangingResponse subtype body) (rangingResponse r) := by
  have h3 := Bits.testBit_eq_of_test 3 (by decide) (Bool.not_inj (hpeers.symm.trans r.subtype_field.symm))
  have hencode : (rangingResponse r).encode = .ok (tagged .rangingResponse r.subtype written) := by
    rw [encode, hwritten]
    rfl
  refine .of_sameBits rfl hw hencode ?_
  refine sameBits_tagged (fun k hk hidle => ?_) (hsame.mono fun i k h => .inr (by rwa [Nat.add_sub_cancel]))
  have hbit : k = 3 := by
    by_contra hne
    exact hidle (.inl ⟨rfl, by omega⟩)
  rwa [hbit]

theorem timing_restores {subtype : UInt8} {body : List UInt8} {t : TimingReport} (hw : t.WellFormed)
    (htiming : t.timing = Bits.test subtype.toUInt32 3) (htx : t.txTime.isSome = Bits.test subtype.toUInt32 2)
    {written : List UInt8} (hwritten : t.encodeBody = .ok written) (hlength : written.length ≤ body.length)
    (hentries : t.entries ≠ [] → t.hasTimes = Bits.test subtype.toUInt32 1 ∧
      t.hasInfos = Bits.test subtype.toUInt32 0 ∧ SameBits t.Idle body written) :
    Restores (tagged .timing subtype body) (timing t) := by
  refine ⟨rfl, hw, tagged .timing t.subtype written, by rw [encode, hwritten]; rfl, ?_, fun hsome => ?_⟩
  · simp only [tagged, List.length_cons]
    omega
  · obtain ⟨htimes, hinfos, hsame⟩ := hentries (hsome t rfl)
    obtain ⟨htiming', htx', htimes', hinfos'⟩ := t.subtype_fields
    have h3 := Bits.testBit_eq_of_test 3 (by decide) (htiming.symm.trans htiming'.symm)
    have h2 := Bits.testBit_eq_of_test 2 (by decide) (htx.symm.trans htx'.symm)
    have h1 := Bits.testBit_eq_of_test 1 (by decide) (htimes.symm.trans htimes'.symm)
    have h0 := Bits.testBit_eq_of_test 0 (by decide) (hinfos.symm.trans hinfos'.symm)
    refine sameBits_tagged (fun k hk _ => ?_) (hsame.mono fun i k h => by rwa [Idle, Nat.add_sub_cancel])
    have hcases : k = 0 ∨ k = 1 ∨ k = 2 ∨ k = 3 := by omega
    rcases hcases with rfl | rfl | rfl | rfl
    · exact h0
    · exact h1
    · exact h2
    · exact h3

theorem accepts_readBody (type : PayloadType) (subtype : UInt8) (hsubtype : subtype < 16) :
    Accepts (readBody type subtype) fun body p => Restores (tagged type subtype body) p := by
  cases type with
  | blink =>
    refine (Blink.accepts_readBody subtype).map ?_
    rintro body b ⟨hw, ⟨hcookie, helements, hextended⟩, written, hwritten, hsame⟩
    exact blink_restores hw hcookie helements hextended hwritten hsame
  | beacon =>
    refine (Beacon.accepts_readBody subtype).map ?_
    rintro _ b ⟨rfl, rfl⟩
    exact .of_sameBits rfl hsubtype rfl (SameBits.refl _ _)
  | rangingRequest =>
    refine Accepts.u8.map ?_
    rintro _ flags rfl
    exact .of_sameBits rfl hsubtype rfl (SameBits.refl _ _)
  | rangingResponse =>
    refine (RangingResponse.accepts_readBody subtype).map ?_
    rintro body r ⟨hw, hpeers, written, hwritten, hsame⟩
    exact rangingResponse_restores hw hpeers hwritten hsame
  | configRequest =>
    refine (SettingsRequest.accepts_readBody subtype).map ?_
    rintro body r ⟨hw, rfl, hwritten⟩
    exact .of_sameBits rfl hw (by rw [encode, hwritten]; rfl) (SameBits.refl _ _)
  | configResponse =>
    refine (SettingsResponse.accepts_readBody subtype).map ?_
    rintro body r ⟨hw, rfl, hwritten⟩
    exact .of_sameBits rfl hw (by rw [encode, hwritten]; rfl) (SameBits.refl _ _)
  | timing =>
    refine (TimingReport.accepts_readBody subtype).map ?_
    rintro body t ⟨hw, htiming, htx, written, hwritten, hlength, hentries⟩
    exact timing_restores hw htiming htx hwritten hlength hentries

theorem accepts_readTagged : Accepts readTagged fun bytes p => Restores (magic1 :: bytes) p := by
  refine Accepts.u8.bind (Q := fun byte body p => Restores (magic1 :: byte :: body) p) (fun byte => ?_) ?_
  · dsimp only
    split
    · rename_i type htype
      refine (accepts_readBody type _ (nibble_lt byte)).mono fun body p h => ?_
      rwa [tagged, typeByte_nibbles htype] at h
    · exact Accepts.unsupported _
  · rintro _ body byte p rfl h
    exact h

-- What is read behind the magic byte, and how many bytes of the buffer it took.
theorem exists_restores {rest : List UInt8} {p : Payload} (h : decode (magic1 :: rest) = .ok p) :
    ∃ length ≤ (magic1 :: rest).length,
      Reader.run (do readFrom (← Reader.u8)) (magic1 :: rest) = .ok (p, length) ∧
        Restores ((magic1 :: rest).take length) p := by
  have hrun : ∃ length, Reader.run (do let _ ← Reader.u8; readTagged) (magic1 :: rest) = .ok (p, length) := by
    rw [decode_magic1] at h
    cases hr : Reader.run (do let _ ← Reader.u8; readTagged) (magic1 :: rest) with
    | error e => rw [hr] at h; cases h
    | ok q =>
      rw [hr] at h
      cases h
      exact ⟨q.2, rfl⟩
  obtain ⟨length, hlength⟩ := hrun
  obtain ⟨front, back, hbytes, rfl, hreads⟩ := steady_magic1.run_eq_ok_iff.mp hlength
  have hrule : Accepts (do let _ ← Reader.u8; readTagged) fun bytes p =>
      ∃ first body, bytes = first :: body ∧ Restores (magic1 :: body) p := by
    refine Accepts.u8.bind (fun _ => accepts_readTagged) ?_
    rintro _ body first p rfl hp
    exact ⟨first, body, rfl, hp⟩
  obtain ⟨first, body, rfl, hp⟩ := hrule.of_reads hreads
  rw [List.cons_append] at hbytes
  obtain ⟨rfl, hrest⟩ := List.cons.inj hbytes
  refine ⟨(magic1 :: body).length, ?_, (run_magic1 rest).trans hlength, ?_⟩
  · simp [hrest]
  · rwa [hrest, ← List.cons_append, List.take_left]

-- Without the first magic byte in front, all bytes are kept.
theorem encode_eq_of_head {bytes : List UInt8} {p : Payload} (h : decode bytes = .ok p)
    (hhead : bytes.head? ≠ some magic1) : p.type? = none ∧ p.encode = .ok bytes := by
  by_cases h2 : bytes.head? = some magic2
  · obtain ⟨rest, rfl⟩ := List.head?_eq_some_iff.mp h2
    rw [decode_encrypted] at h
    cases h
    exact ⟨rfl, rfl⟩
  · rw [decode_raw bytes hhead h2] at h
    cases h
    exact ⟨rfl, encode_raw bytes hhead h2⟩

theorem encode_of_decode {bytes : List UInt8} {p : Payload} (h : decode bytes = .ok p) :
    ∃ canonical, p.encode = .ok canonical ∧ decode canonical = .ok p ∧ canonical.length ≤ bytes.length ∧
      (p.type? = none → canonical = bytes) ∧
      (p.type?.isSome → (∀ t, p = timing t → t.entries ≠ []) →
        Reader.run (do readFrom (← Reader.u8)) bytes = .ok (p, canonical.length) ∧
          SameBits p.Idle (bytes.take canonical.length) canonical) := by
  by_cases hhead : bytes.head? = some magic1
  · obtain ⟨rest, rfl⟩ := List.head?_eq_some_iff.mp hhead
    obtain ⟨length, hle, hrun, hrestores⟩ := exists_restores h
    have htake : ((magic1 :: rest).take length).length = length := List.length_take_of_le hle
    obtain ⟨canonical, hencode, hshort, hsame⟩ := hrestores.written
    obtain ⟨written, hwritten, hdecode⟩ := decode_encode p hrestores.wellFormed
    rw [hencode] at hwritten
    cases hwritten
    refine ⟨canonical, hencode, hdecode, by omega, fun hnone => ?_, fun _ hentries => ?_⟩
    · have htagged := hrestores.tagged
      simp [hnone] at htagged
    · have hbits := hsame hentries
      have hlength : canonical.length = length := hbits.length.symm.trans htake
      rw [hlength]
      exact ⟨hrun, hbits⟩
  · obtain ⟨hnone, hencode⟩ := encode_eq_of_head h hhead
    refine ⟨bytes, hencode, h, Nat.le_refl _, fun _ => rfl, fun hsome => ?_⟩
    simp [hnone] at hsome

-- An answer for one peer: two idle bits of the subtype and all padding of the mask are set, and a byte
-- follows. What is written back has none of them.
theorem encode_of_decode_paddedMask :
    decode [0x37, 0x35, 1, 0, 0, 0, 0, 1, 0xfe, 0x34, 0x12, 9, 0, 0, 0, 0, 0x99]
        = .ok (rangingResponse ⟨1, some [(.short 0x1234, 9)]⟩) ∧
      ∃ canonical, (rangingResponse ⟨1, some [(.short 0x1234, 9)]⟩).encode = .ok canonical ∧
        canonical = [0x37, 0x30, 1, 0, 0, 0, 0, 1, 0, 0x34, 0x12, 9, 0, 0, 0, 0] ∧
        SameBits (rangingResponse ⟨1, some [(.short 0x1234, 9)]⟩).Idle
          [0x37, 0x35, 1, 0, 0, 0, 0, 1, 0xfe, 0x34, 0x12, 9, 0, 0, 0, 0] canonical := by
  have hdecode : decode [0x37, 0x35, 1, 0, 0, 0, 0, 1, 0xfe, 0x34, 0x12, 9, 0, 0, 0, 0, 0x99]
      = .ok (rangingResponse ⟨1, some [(.short 0x1234, 9)]⟩) := rfl
  obtain ⟨canonical, hencode, -, -, -, htagged⟩ := encode_of_decode hdecode
  obtain ⟨-, hsame⟩ := htagged rfl fun t ht => by cases ht
  have hcanonical : Except.ok [0x37, 0x30, 1, 0, 0, 0, 0, 1, 0, 0x34, 0x12, 9, 0, 0, 0, 0] = .ok canonical := hencode
  cases hcanonical
  exact ⟨hdecode, _, rfl, rfl, hsame⟩

end Payload

end UwbRanging
