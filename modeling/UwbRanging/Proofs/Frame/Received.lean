import UwbRanging.Proofs.Frame.Accepts
import UwbRanging.Proofs.Frame.Length
import UwbRanging.Proofs.Frame.Steady

namespace UwbRanging

theorem AddressMode.bits_ofBits (v : UInt32) (hv : v.toNat < 4) :
    (ofBits v).bits = if v = 1 then 0 else v := by
  have hcases : v = 0 ∨ v = 1 ∨ v = 2 ∨ v = 3 := by
    simp only [← UInt32.toNat_inj, UInt32.reduceToNat]
    omega
  rcases hcases with rfl | rfl | rfl | rfl <;> decide

namespace Header

-- What becomes of a control word when the header that was read from it is written: bits 7 to 9 are cleared, and so
-- is an addressing mode that holds the reserved value.
structure Settles (received written : UInt16) : Prop where
  kept : ∀ i, i < 7 ∨ i = 12 ∨ i = 13 → written.toNat.testBit i = received.toNat.testBit i
  reserved : ∀ i, 7 ≤ i → i < 10 → written.toNat.testBit i = false
  modes : ∀ offset : UInt32, offset = 10 ∨ offset = 14 → Bits.get written.toUInt32 offset 2 =
    if Bits.get received.toUInt32 offset 2 = 1 then 0 else Bits.get received.toUInt32 offset 2

theorem testBit_frameControl {h : Header} {control : UInt16} {offset count : UInt32} (ho : offset.toNat < 32)
    (hfield : Bits.get h.frameControl.toUInt32 offset count = Bits.get control.toUInt32 offset count) {i : Nat}
    (hlow : offset.toNat ≤ i) (hhigh : i < offset.toNat + count.toNat) :
    h.frameControl.toNat.testBit i = control.toNat.testBit i := by
  have hbit := Bits.testBit_eq_of_get ho hfield hlow hhigh
  rwa [UInt16.toNat_toUInt32, UInt16.toNat_toUInt32] at hbit

theorem flag_frameControl {h : Header} {control : UInt16} (n : UInt32) (hn : n.toNat < 32)
    (hflag : Bits.test h.frameControl.toUInt32 n = Bits.test control.toUInt32 n) :
    h.frameControl.toNat.testBit n.toNat = control.toNat.testBit n.toNat := by
  rwa [Bits.test_eq_testBit _ n hn, Bits.test_eq_testBit _ n hn, UInt16.toNat_toUInt32,
    UInt16.toNat_toUInt32] at hflag

-- A mode fills the field that it was read from, unless that was reserved.
theorem mode_field {mode : AddressMode} {v : UInt32} (hv : v.toNat < 4) (hmode : mode = AddressMode.ofBits v) :
    mode.bits &&& Bits.lowMask 2 = if v = 1 then 0 else v := by
  rw [hmode, AddressMode.bits_ofBits v hv]
  split
  · decide
  · exact Bits.and_lowMask_of_lt hv

-- The header that a control word makes of a number and two addresses with their PANs.
def received (control : UInt16) (seq : UInt8) (dst src : UInt16 × Option Address) : Header where
  type := MacType.ofBits (Bits.get control.toUInt32 0 3)
  version := (Bits.get control.toUInt32 12 2).toUInt8
  security := false
  pending := Bits.test control.toUInt32 4
  ackRequest := Bits.test control.toUInt32 5
  panCompression := Bits.test control.toUInt32 6
  seq := some seq
  dstPan := dst.1
  dst := dst.2
  srcPan := src.1
  src := src.2

section
variable {control : UInt16} {seq : UInt8} {dst src : UInt16 × Option Address}

theorem received_wellFormed (hdst : dst.2 = none → dst.1 = 0xffff)
    (hcompressed : Bits.test control.toUInt32 6 = true → src.1 = dst.1)
    (hsrc : Bits.test control.toUInt32 6 = false → src.2 = none → src.1 = 0xffff) :
    (received control seq dst src).WellFormed where
  security := rfl
  version := by
    apply UInt8.lt_iff_toNat_lt.mpr
    rw [received, Bits.toNat_toUInt8_get _ _ (by decide)]
    exact Bits.get_lt control.toUInt32 12 2
  type _ := MacType.bounds_of_ofBits
  dstPan := hdst
  compressed := hcompressed
  srcPan := hsrc

theorem type_received : Bits.get (received control seq dst src).frameControl.toUInt32 0 3 =
    Bits.get control.toUInt32 0 3 := by
  obtain ⟨htype, -⟩ := (received control seq dst src).frameControl_fields
  rw [htype, received, MacType.bits_ofBits, show (7 : UInt32) = Bits.lowMask 3 by decide, Bits.get_and_lowMask,
    Bits.get_and_lowMask]

theorem version_received : Bits.get (received control seq dst src).frameControl.toUInt32 12 2 =
    Bits.get control.toUInt32 12 2 := by
  obtain ⟨-, -, hversion, -⟩ := (received control seq dst src).frameControl_fields
  have hbyte : (Bits.get control.toUInt32 12 2).toUInt8.toUInt32 = Bits.get control.toUInt32 12 2 := by
    apply UInt32.toNat_inj.mp
    rw [UInt8.toNat_toUInt32, Bits.toNat_toUInt8_get _ _ (by decide)]
  rw [hversion, received, hbyte, Bits.get_and_lowMask]

-- The flag of compression is derived from the PANs, and these are equal wherever it was set.
theorem settles_received (hw : (received control seq dst src).WellFormed)
    (hsecurity : Bits.test control.toUInt32 3 = false)
    (hdst : modeOf dst.2 = AddressMode.ofBits (Bits.get control.toUInt32 10 2))
    (hsrc : modeOf src.2 = AddressMode.ofBits (Bits.get control.toUInt32 14 2)) :
    Settles control (received control seq dst src).frameControl := by
  obtain ⟨-, fdst, -, fsrc⟩ := (received control seq dst src).frameControl_fields
  obtain ⟨fsecurity, fpending, fack, fcompressed⟩ := (received control seq dst src).frameControl_flags
  constructor
  case kept =>
    intro i hi
    have hcases : i < 3 ∨ i = 3 ∨ i = 4 ∨ i = 5 ∨ i = 6 ∨ 12 ≤ i ∧ i < 14 := by omega
    rcases hcases with hlow | rfl | rfl | rfl | rfl | ⟨hlow, hhigh⟩
    · exact testBit_frameControl (by decide) type_received (Nat.zero_le i) (by simpa using hlow)
    · exact flag_frameControl 3 (by decide) (fsecurity.trans hsecurity.symm)
    · exact flag_frameControl 4 (by decide) fpending
    · exact flag_frameControl 5 (by decide) fack
    · exact flag_frameControl 6 (by decide) (fcompressed.trans hw.compressesPan_eq)
    · exact testBit_frameControl (by decide) version_received (by simpa using hlow) (by simpa using hhigh)
  case reserved =>
    intro i hlow hhigh
    have hnone : Bits.get (received control seq dst src).frameControl.toUInt32 7 3 =
        Bits.get (0 : UInt16).toUInt32 7 3 := frameControl_reserved _
    rw [testBit_frameControl (by decide) hnone (by simpa using hlow) (by simpa using hhigh)]
    exact Nat.zero_testBit i
  case modes =>
    rintro offset (rfl | rfl)
    · rw [fdst]
      exact mode_field (Bits.get_lt _ 10 2) hdst
    · rw [fsrc]
      exact mode_field (Bits.get_lt _ 14 2) hsrc

end

theorem accepts_field (mode : AddressMode) :
    Accepts (readField mode) fun bytes a => modeOf a = mode ∧ bytes = a.elim [] Address.toWire := by
  cases mode with
  | absent => exact Accepts.pure ⟨rfl, rfl⟩
  | short =>
    refine (accepts_address false).map ?_
    rintro _ (v | e) ⟨rfl, hlong⟩
    · exact ⟨rfl, rfl⟩
    · cases hlong
  | extended =>
    refine (accepts_address true).map ?_
    rintro _ (v | e) ⟨rfl, hlong⟩
    · cases hlong
    · exact ⟨rfl, rfl⟩

theorem accepts_dst (mode : AddressMode) :
    Accepts (readDst mode) fun bytes p =>
      modeOf p.2 = mode ∧ (p.2 = none → p.1 = 0xffff) ∧ bytes = p.2.elim [] fun a => Wire.u16 p.1 ++ a.toWire := by
  have hpresent (mode : AddressMode) (hmode : mode ≠ .absent) :
      Accepts (do return (← Reader.u16, ← readField mode)) fun bytes p =>
        modeOf p.2 = mode ∧ (p.2 = none → p.1 = 0xffff) ∧ bytes = p.2.elim [] fun a => Wire.u16 p.1 ++ a.toWire := by
    refine Accepts.u16.map₂ (accepts_field mode) ?_
    rintro _ _ pan (_ | a) rfl ⟨rfl, rfl⟩
    · exact (hmode rfl).elim
    · exact ⟨rfl, nofun, rfl⟩
  cases mode with
  | absent => exact Accepts.pure ⟨rfl, fun _ => rfl, rfl⟩
  | short => exact hpresent .short nofun
  | extended => exact hpresent .extended nofun

-- A compressed PAN takes no bytes.
theorem accepts_src (mode : AddressMode) (compressed : Bool) (dstPan : UInt16) :
    Accepts (readSrc mode compressed dstPan) fun bytes p =>
      modeOf p.2 = mode ∧ (compressed = true → p.1 = dstPan) ∧ (compressed = false → p.2 = none → p.1 = 0xffff) ∧
        bytes = p.2.elim [] fun a => (if compressed then [] else Wire.u16 p.1) ++ a.toWire := by
  have hpresent (mode : AddressMode) (hmode : mode ≠ .absent) :
      Accepts (do
          let pan ← if compressed then pure dstPan else Reader.u16
          return (pan, ← readField mode)) fun bytes p =>
        modeOf p.2 = mode ∧ (compressed = true → p.1 = dstPan) ∧ (compressed = false → p.2 = none → p.1 = 0xffff) ∧
          bytes = p.2.elim [] fun a => (if compressed then [] else Wire.u16 p.1) ++ a.toWire := by
    cases compressed with
    | true =>
      refine (accepts_field mode).map ?_
      rintro _ (_ | a) ⟨rfl, rfl⟩
      · exact (hmode rfl).elim
      · exact ⟨rfl, fun _ => rfl, nofun, rfl⟩
    | false =>
      refine Accepts.u16.map₂ (accepts_field mode) ?_
      rintro _ _ pan (_ | a) rfl ⟨rfl, rfl⟩
      · exact (hmode rfl).elim
      · exact ⟨rfl, nofun, nofun, rfl⟩
  cases mode with
  | absent =>
    refine Accepts.pure ⟨rfl, ?_, ?_, rfl⟩
    · rintro rfl
      rfl
    · rintro rfl -
      rfl
  | short => exact hpresent .short nofun
  | extended => exact hpresent .extended nofun

-- What the bytes of a header say of it: its control word up to reserved bits, its number, and its addresses in the
-- form in which it writes them.
structure Spells (control : UInt16) (seq : UInt8) (rest : List UInt8) (h : Header) : Prop where
  wellFormed : h.WellFormed
  seq : h.seq = some seq
  settles : Settles control h.frameControl
  rest : rest = h.dstBytes ++ h.srcBytes

theorem accepts_addresses {control : UInt16} (hsecurity : Bits.test control.toUInt32 3 = false) (seq : UInt8) :
    Accepts (do
        let dst ← readDst (AddressMode.ofBits (Bits.get control.toUInt32 10 2))
        let src ← readSrc (AddressMode.ofBits (Bits.get control.toUInt32 14 2)) (Bits.test control.toUInt32 6) dst.1
        return received control seq dst src) (Spells control seq) := by
  refine (accepts_dst _).bindMap (f := received control seq) (fun dst => accepts_src _ _ dst.1) ?_
  rintro _ _ ⟨dstPan, dst⟩ ⟨srcPan, src⟩ ⟨hdst, hdstPan, rfl⟩ ⟨hsrc, hcompressed, hsrcPan, rfl⟩
  have hw : (received control seq (dstPan, dst) (srcPan, src)).WellFormed :=
    received_wellFormed hdstPan hcompressed hsrcPan
  refine ⟨hw, rfl, settles_received hw hsecurity hdst hsrc, ?_⟩
  rw [dstBytes, srcBytes, hw.compressesPan_eq]
  cases dst <;> cases src <;> rfl

theorem accepts_read :
    Accepts read fun bytes h =>
      ∃ control seq rest, bytes = Wire.u16 control ++ (Wire.u8 seq ++ rest) ∧ Spells control seq rest h := by
  refine Accepts.u16.bind (Q := fun control bytes h => ∃ seq rest, bytes = Wire.u8 seq ++ rest ∧
    Spells control seq rest h) (fun control => ?_) ?_
  · refine Accepts.u8.bind (Q := Spells control) (fun seq => ?_) ?_
    · dsimp only
      split
      · exact Accepts.unsupported_bind _ _ _
      · rename_i hsecurity
        exact accepts_addresses (Bool.eq_false_iff.mpr hsecurity) seq
    · rintro _ rest seq h rfl hspells
      exact ⟨seq, rest, rfl, hspells⟩
  · rintro _ _ control h rfl ⟨seq, rest, rfl, hspells⟩
    exact ⟨control, seq, rest, rfl, hspells⟩

theorem number_of_seq {h : Header} {seq : UInt8} (hseq : h.seq = some seq) (counter : SequenceCounter) :
    h.number counter = (h, counter) := by
  rw [number, hseq]

-- A header that was received goes out again as it came in, but for the reserved bits of its control word, and takes
-- no number. Nothing is lost with these bits: what is written is read as the same header.
theorem encode_of_received {bytes : List UInt8} {h : Header} {n : Nat} (hdecode : decode bytes = .ok (h, n)) :
    n ≤ bytes.length ∧ ∃ control written rest, bytes.take n = Wire.u16 control ++ rest ∧ Settles control written ∧
      (∀ counter, h.encode counter = ⟨.ok (Wire.u16 written ++ rest), n, h, counter⟩) ∧
      ∀ suffix, decode (Wire.u16 written ++ rest ++ suffix) = .ok (h, n) := by
  obtain ⟨front, back, rfl, rfl, hreads⟩ := steady_read.run_eq_ok_iff.mp hdecode
  obtain ⟨control, seq, rest, rfl, hspells⟩ := accepts_read.of_reads hreads
  have hwritten : h.toWire = Wire.u16 h.frameControl ++ (Wire.u8 seq ++ rest) := by
    rw [toWire, hspells.seq, hspells.rest, List.append_assoc, List.append_assoc]
    rfl
  have hlength : h.toWire.length = (Wire.u16 control ++ (Wire.u8 seq ++ rest)).length := by
    simp only [hwritten, Wire.u16, List.length_append, LittleEndian.length_encode]
  refine ⟨by simp, control, h.frameControl, Wire.u8 seq ++ rest, List.take_left, hspells.settles, ?_, ?_⟩
  · intro counter
    rw [encode_of_not_security hspells.wellFormed.security, number_of_seq hspells.seq, ← hlength, ← hwritten,
      h.length_toWire]
  · intro suffix
    have hnumber : some (h.seq.getD 0) = h.seq := by rw [hspells.seq]; rfl
    have hheard : h.heard = h := by rw [hspells.wellFormed.heard_eq, hnumber]
    have hrun := (h.reads_toWire hspells.wellFormed.security).run suffix
    rwa [hheard, hlength, hwritten] at hrun

-- A compressed header to everyone without a source. All its reserved bits are set, and the mode of the source is
-- the reserved one.
def toEveryone : Header :=
  { seq := some 7, dstPan := 0xabcd, dst := some (.short 0xffff), srcPan := 0xabcd }

theorem encode_of_received_reservedBits :
    decode [0xc1, 0x5b, 7, 0xcd, 0xab, 0xff, 0xff, 0x37] = .ok (toEveryone, 7) ∧
      (∀ counter, toEveryone.encode counter = ⟨.ok [0x41, 0x18, 7, 0xcd, 0xab, 0xff, 0xff], 7, toEveryone, counter⟩) ∧
      decode [0x41, 0x18, 7, 0xcd, 0xab, 0xff, 0xff, 0x37] = .ok (toEveryone, 7) := by
  have hdecode : decode [0xc1, 0x5b, 7, 0xcd, 0xab, 0xff, 0xff, 0x37] = .ok (toEveryone, 7) := rfl
  obtain ⟨-, control, written, rest, -, -, hencode, hback⟩ := encode_of_received hdecode
  have hwritten : (toEveryone.encode {}).outcome = .ok [0x41, 0x18, 7, 0xcd, 0xab, 0xff, 0xff] := rfl
  rw [hencode {}] at hwritten
  rw [Except.ok.inj hwritten] at hencode hback
  exact ⟨hdecode, hencode, hback [0x37]⟩

end Header

end UwbRanging
