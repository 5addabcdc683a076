import UwbRanging.Frame.Header
import UwbRanging.Proofs.BitFields
import UwbRanging.Proofs.Wire.Reads

namespace UwbRanging

theorem AddressMode.ofBits_field (m : AddressMode) : ofBits (m.bits &&& Bits.lowMask 2) = m := by
  cases m <;> decide

-- Only the low three bits of a type are looked at, so that nothing is lost if only they are sent.
theorem MacType.ofBits_field (t : MacType) : ofBits (t.bits &&& Bits.lowMask 3) = ofBits t.bits := by
  have hmask : (t.bits &&& Bits.lowMask 3) &&& 7 = t.bits &&& 7 := by
    rw [UInt32.and_assoc, show Bits.lowMask 3 &&& 7 = 7 by decide]
  rw [ofBits, ofBits, hmask]

theorem MacType.ofBits_reserved (n : UInt8) (hlow : 4 ≤ n) (hhigh : n ≤ 7) :
    MacType.ofBits (MacType.reserved n).bits = .reserved n := by
  have hlow' : 4 ≤ n.toNat := UInt8.le_iff_toNat_le.mp hlow
  have hhigh' : n.toNat ≤ 7 := UInt8.le_iff_toNat_le.mp hhigh
  have hcases : n = 4 ∨ n = 5 ∨ n = 6 ∨ n = 7 := by
    simp only [← UInt8.toNat_inj, UInt8.reduceToNat]
    omega
  rcases hcases with rfl | rfl | rfl | rfl <;> decide

theorem MacType.and_seven_cases (v : UInt32) : v &&& 7 = 0 ∨ v &&& 7 = 1 ∨ v &&& 7 = 2 ∨ v &&& 7 = 3 ∨
    v &&& 7 = 4 ∨ v &&& 7 = 5 ∨ v &&& 7 = 6 ∨ v &&& 7 = 7 := by
  have hlt : (v &&& 7).toNat < 2 ^ 3 := by
    rw [UInt32.toNat_and]
    exact Nat.and_lt_two_pow _ (by decide)
  simp only [← UInt32.toNat_inj, UInt32.reduceToNat]
  omega

-- A type that was read has a place on the air.
theorem MacType.bounds_of_ofBits {v : UInt32} {n : UInt8} (h : ofBits v = .reserved n) : 4 ≤ n ∧ n ≤ 7 := by
  unfold ofBits at h
  rcases and_seven_cases v with hv | hv | hv | hv | hv | hv | hv | hv <;> rw [hv] at h <;> cases h <;> decide

theorem MacType.bits_ofBits (v : UInt32) : (ofBits v).bits = v &&& 7 := by
  unfold ofBits
  rcases and_seven_cases v with hv | hv | hv | hv | hv | hv | hv | hv <;> rw [hv] <;> rfl

theorem flag_field (flag : Bool) : ((flag.toUInt32 &&& Bits.lowMask 1) != 0) = flag := by
  cases flag <;> decide

namespace Header

-- The fields of the frame control word. Bits 7 to 9 belong to none.
def controlFields (h : Header) : List BitField :=
  [⟨⟨0, 3, by decide, by decide⟩, h.type.bits⟩,
    ⟨⟨3, 1, by decide, by decide⟩, h.security.toUInt32⟩,
    ⟨⟨4, 1, by decide, by decide⟩, h.pending.toUInt32⟩,
    ⟨⟨5, 1, by decide, by decide⟩, h.ackRequest.toUInt32⟩,
    ⟨⟨6, 1, by decide, by decide⟩, h.compressesPan.toUInt32⟩,
    ⟨⟨10, 2, by decide, by decide⟩, (modeOf h.dst).bits⟩,
    ⟨⟨12, 2, by decide, by decide⟩, h.version.toUInt32⟩,
    ⟨⟨14, 2, by decide, by decide⟩, (modeOf h.src).bits⟩]

theorem frameControl_eq_pack (h : Header) : h.frameControl = (BitField.pack h.controlFields).toUInt16 := by
  simp only [BitField.pack, controlFields, List.foldl_cons, List.foldl_nil, UInt32.zero_or]
  rfl

theorem controlFields_disjoint (h : Header) : (h.controlFields.map BitField.range).Pairwise BitRange.Disjoint := by
  simp only [controlFields, List.map_cons, List.map_nil]
  decide

-- The frame control word holds each of its fields where it was placed.
theorem get_frameControl (h : Header) : ∀ f ∈ h.controlFields,
    Bits.get h.frameControl.toUInt32 f.range.offset f.range.count = f.value &&& Bits.lowMask f.range.count := by
  have hfit : ∀ r ∈ h.controlFields.map BitField.range, r.offset.toNat + r.count.toNat ≤ 16 := by
    simp only [controlFields, List.map_cons, List.map_nil]
    decide
  intro f hf
  rw [frameControl_eq_pack, Bits.get_toUInt16 _ _ _ f.range.offset_lt (hfit f.range (List.mem_map_of_mem hf))]
  exact BitField.get_pack h.controlFields_disjoint hf

theorem frameControl_fields (h : Header) :
    Bits.get h.frameControl.toUInt32 0 3 = h.type.bits &&& Bits.lowMask 3 ∧
    Bits.get h.frameControl.toUInt32 10 2 = (modeOf h.dst).bits &&& Bits.lowMask 2 ∧
    Bits.get h.frameControl.toUInt32 12 2 = h.version.toUInt32 &&& Bits.lowMask 2 ∧
    Bits.get h.frameControl.toUInt32 14 2 = (modeOf h.src).bits &&& Bits.lowMask 2 := by
  have hall := h.get_frameControl
  simp only [controlFields, List.forall_mem_cons] at hall
  obtain ⟨htype, -, -, -, -, hdst, hversion, hsrc, -⟩ := hall
  exact ⟨htype, hdst, hversion, hsrc⟩

theorem frameControl_flags (h : Header) :
    Bits.test h.frameControl.toUInt32 3 = h.security ∧
    Bits.test h.frameControl.toUInt32 4 = h.pending ∧
    Bits.test h.frameControl.toUInt32 5 = h.ackRequest ∧
    Bits.test h.frameControl.toUInt32 6 = h.compressesPan := by
  have hall := h.get_frameControl
  simp only [controlFields, List.forall_mem_cons] at hall
  obtain ⟨-, hsecurity, hpending, hack, hcompressed, -⟩ := hall
  have hflag {n : UInt32} {flag : Bool} (hn : n.toNat < 32)
      (hfield : Bits.get h.frameControl.toUInt32 n 1 = flag.toUInt32 &&& Bits.lowMask 1) :
      Bits.test h.frameControl.toUInt32 n = flag := by
    rw [Bits.test_eq_get _ _ hn, hfield, flag_field]
  exact ⟨hflag (by decide) hsecurity, hflag (by decide) hpending, hflag (by decide) hack,
    hflag (by decide) hcompressed⟩

theorem frameControl_reserved (h : Header) : Bits.get h.frameControl.toUInt32 7 3 = 0 := by
  simp (disch := decide) only [frameControl, Bits.placeFlag, Bits.get_toUInt16, Bits.get_or, Bits.get_place_disjoint,
    UInt32.or_zero]

-- The PAN that a receiver takes for the destination's.
def heardDstPan (h : Header) : UInt16 := if h.dst.isSome then h.dstPan else 0xffff

-- The PAN that a receiver takes for the source's.
def heardSrcPan (h : Header) : UInt16 :=
  if h.compressesPan then h.heardDstPan else if h.src.isSome then h.srcPan else 0xffff

-- The header as its receiver gets to see it. What has no place on the air takes the value that an
-- absent field stands for.
def heard (h : Header) : Header where
  type := MacType.ofBits h.type.bits
  version := (h.version.toUInt32 &&& Bits.lowMask 2).toUInt8
  security := false
  pending := h.pending
  ackRequest := h.ackRequest
  panCompression := h.compressesPan
  seq := some (h.seq.getD 0)
  dstPan := h.heardDstPan
  dst := h.dst
  srcPan := h.heardSrcPan
  src := h.src

theorem reads_extended (e : Eui64) : Reads (readAddress true) e.toWire (.extended e) := by
  have h := (Reads.bytes e.toWire).map fun data => Address.extended (Eui64.ofWire data)
  rwa [Eui64.length_toWire, Eui64.ofWire_toWire] at h

-- The length that is announced for an address is that of its bytes.
theorem reads_address (a : Address) : Reads (readAddress a.isLong) a.toWire a := by
  cases a with
  | short v => exact (Reads.u16 v).map Address.short
  | extended e => exact reads_extended e

theorem reads_field (a : Address) : Reads (readField a.mode) a.toWire (some a) := by
  cases a with
  | short v => exact (reads_address (.short v)).map some
  | extended e => exact (reads_address (.extended e)).map some

theorem reads_dst (h : Header) : Reads (readDst (modeOf h.dst)) h.dstBytes (h.heardDstPan, h.dst) := by
  unfold dstBytes heardDstPan
  cases h.dst with
  | none => exact Reads.pure _
  | some dst =>
    have hpair := (Reads.u16 h.dstPan).map₂ (reads_field dst) Prod.mk
    cases dst with
    | short v => exact hpair
    | extended e => exact hpair

theorem reads_src (h : Header) :
    Reads (readSrc (modeOf h.src) h.compressesPan h.heardDstPan) h.srcBytes (h.heardSrcPan, h.src) := by
  unfold srcBytes heardSrcPan
  cases h.src with
  | none => exact Reads.pure _
  | some src =>
    cases h.compressesPan with
    | false =>
      have hpair := (Reads.u16 h.srcPan).map₂ (reads_field src) Prod.mk
      cases src with
      | short v => exact hpair
      | extended e => exact hpair
    | true =>
      have hfield := (reads_field src).map fun a => (h.heardDstPan, a)
      cases src with
      | short v => exact hfield
      | extended e => exact hfield

theorem reads_toWire (h : Header) (hsecurity : h.security = false) : Reads read h.toWire h.heard := by
  obtain ⟨htype, hdst, hversion, hsrc⟩ := h.frameControl_fields
  obtain ⟨hsec, hpending, hack, hcompressed⟩ := h.frameControl_flags
  unfold read toWire
  rw [List.append_assoc, List.append_assoc]
  apply (Reads.u16 _).bind
  apply (Reads.u8 _).bind
  rw [hsec, hsecurity, hdst, hsrc, htype, hversion, hpending, hack, hcompressed, AddressMode.ofBits_field,
    AddressMode.ofBits_field, MacType.ofBits_field]
  exact h.reads_dst.bind (h.reads_src.map _)

end Header

end UwbRanging
