import UwbRanging.Proofs.Frame.Compression

namespace UwbRanging

namespace Header

variable (h : Header)

theorem length_dstBytes : h.dstBytes.length = h.dst.elim 0 fun dst => 2 + dst.length := by
  unfold dstBytes
  cases h.dst with
  | none => rfl
  | some dst =>
    have hpan : (Wire.u16 h.dstPan).length = 2 := LittleEndian.length_encode 2 _
    rw [List.length_append, hpan, dst.length_toWire]
    rfl

theorem length_srcBytes :
    h.srcBytes.length = h.src.elim 0 fun src => (if h.compressesPan then 0 else 2) + src.length := by
  unfold srcBytes
  cases h.src with
  | none => rfl
  | some src =>
    have hpan : (Wire.u16 h.srcPan).length = 2 := LittleEndian.length_encode 2 _
    dsimp only [Option.elim_some]
    rw [List.length_append, src.length_toWire]
    cases h.compressesPan with
    | false => exact congrArg (· + src.length) hpan
    | true => rfl

-- The sum of the fields is the length of what is written.
theorem length_eq : h.length = 3 + (h.dst.elim 0 fun dst => 2 + dst.length) +
    h.src.elim 0 fun src => (if h.compressesPan then 0 else 2) + src.length := by
  unfold length
  cases h.dst <;> cases h.src <;> rfl

theorem length_toWire : h.toWire.length = h.length := by
  have hcontrol : (Wire.u16 h.frameControl).length = 2 := LittleEndian.length_encode 2 _
  have hseq : (Wire.u8 (h.seq.getD 0)).length = 1 := rfl
  rw [toWire, List.length_append, List.length_append, List.length_append, hcontrol, hseq, length_dstBytes,
    length_srcBytes, length_eq]

-- The number stands behind the two bytes of the frame control word.
theorem getElem?_toWire_two (rest : List UInt8) : (h.toWire ++ rest)[2]? = some (h.seq.getD 0) := rfl

-- Only the low two bits of a version are sent.
theorem version_heard : h.heard.version = h.version % 4 := by
  apply UInt8.toNat_inj.mp
  have hmask : (Bits.lowMask 2).toNat = 2 ^ 2 - 1 := by decide
  have hlow : h.version.toNat % 2 ^ 2 < 2 ^ 8 := by omega
  calc
    h.heard.version.toNat = (h.version.toNat &&& (2 ^ 2 - 1)) % 2 ^ 8 := by
      rw [heard, UInt32.toNat_toUInt8, UInt32.toNat_and, hmask, UInt8.toNat_toUInt32]
    _ = h.version.toNat % 2 ^ 2 := by rw [Nat.and_two_pow_sub_one_eq_mod, Nat.mod_eq_of_lt hlow]
    _ = (h.version % 4).toNat := (UInt8.toNat_mod h.version 4).symm

variable {h} in
-- Just the well-formed headers are received as they were sent.
theorem heard_eq_iff (hsecurity : h.security = false) (seq : Option UInt8) :
    { h.heard with seq := seq } = { h with seq := seq } ↔ h.WellFormed := by
  constructor
  · intro heq
    obtain ⟨htype, hversion, -, -, -, hcompressed, -, hdstPan, -, hsrcPan, -⟩ := Header.mk.inj heq
    have hpans : h.panCompression = true → h.srcPan = h.dstPan := by
      intro hpan
      have hboth : (h.panCompression && h.srcPan == h.dstPan) = true := hcompressed.trans hpan
      exact eq_of_beq (Bool.and_eq_true_iff.mp hboth).2
    constructor
    case security => exact hsecurity
    case version =>
      rw [version_heard] at hversion
      rw [← hversion]
      apply UInt8.lt_iff_toNat_lt.mpr
      rw [UInt8.toNat_mod]
      exact Nat.mod_lt _ (by decide)
    case type => exact fun n hn => MacType.bounds_of_ofBits (htype.trans hn)
    case dstPan =>
      intro hdst
      rw [← hdstPan, heard, heardDstPan, hdst]
      rfl
    case compressed => exact hpans
    case srcPan =>
      intro hpan hsrc
      have hapart : h.compressesPan = false := hcompressed.trans hpan
      rw [← hsrcPan, heard, heardSrcPan, hapart, hsrc]
      rfl
  · intro hw
    rw [hw.heard_eq]

-- Encoder and decoder agree on where a header ends, whatever follows it, and the decoder gets every field
-- that has a place on the air.
theorem decode_encode_length (hsecurity : h.security = false) (counter : SequenceCounter) (suffix : List UInt8) :
    ∃ bytes heard, (h.encode counter).outcome = .ok bytes ∧ bytes.length = (h.encode counter).length ∧
      (h.encode counter).length = 3 + (h.dst.elim 0 fun dst => 2 + dst.length) +
        (h.src.elim 0 fun src => (if h.compressesPan then 0 else 2) + src.length) ∧
      decode (bytes ++ suffix) = .ok (heard, (h.encode counter).length) ∧
      heard.type = MacType.ofBits h.type.bits ∧ heard.version = h.version % 4 ∧ heard.security = false ∧
      heard.pending = h.pending ∧ heard.ackRequest = h.ackRequest ∧ heard.panCompression = h.compressesPan ∧
      heard.seq = some (h.seq.getD counter.next) ∧ bytes[2]? = heard.seq ∧
      (h.encode counter).header.seq = heard.seq ∧ heard.dst = h.dst ∧ heard.src = h.src := by
  obtain ⟨sent, hsent⟩ : ∃ sent, sent = (h.number counter).1 := ⟨_, rfl⟩
  have hnumber : sent = { h with seq := some (h.seq.getD counter.next) } := hsent.trans (h.number_fst counter)
  have hencode := encode_of_not_security hsecurity counter
  rw [← hsent] at hencode
  have hlength : sent.length = h.length := by rw [hnumber]; rfl
  have hread : Reads read sent.toWire sent.heard := sent.reads_toWire (by rw [hnumber]; exact hsecurity)
  have hdecode : decode (sent.toWire ++ suffix) = .ok (sent.heard, h.length) := by
    rw [← hlength, ← sent.length_toWire]
    exact hread.run suffix
  have hversion : sent.heard.version = h.version % 4 := by rw [version_heard, hnumber]
  have htwo : sent.toWire[2]? = some (sent.seq.getD 0) := by
    rw [← List.append_nil sent.toWire]
    exact sent.getElem?_toWire_two []
  rw [hencode]
  refine ⟨sent.toWire, sent.heard, rfl, sent.length_toWire, ?_, ?_, ?_⟩
  · rw [hlength, h.length_eq]
  · rw [hlength, hdecode]
  · rw [hnumber] at hversion htwo ⊢
    exact ⟨rfl, hversion, rfl, rfl, rfl, rfl, rfl, htwo, rfl, rfl, rfl⟩

-- A reserved type and a version beyond its two bits, from a long address on a PAN of its own to a short one.
theorem decode_encode_length_wideVersion :
    let h : Header := {
      type := .reserved 0xfd
      version := 0xff
      dstPan := 0x1111
      dst := some (.short 7)
      srcPan := 0x2222
      src := some (.extended ⟨9⟩) }
    h.security = false ∧
      ∃ bytes heard, (h.encode ⟨255⟩).outcome = .ok bytes ∧ bytes.length = 17 ∧
        decode (bytes ++ [0x37]) = .ok (heard, 17) ∧ heard.type = .reserved 5 ∧ heard.version = 3 ∧
        heard.panCompression = false ∧ heard.seq = some 255 ∧ heard.dst = h.dst ∧ heard.src = h.src := by
  intro h
  obtain ⟨bytes, heard, hencode, hlength, hsum, hdecode, htype, hversion, -, -, -, hcompression, hseq, -, -, hdst,
    hsrc⟩ := decode_encode_length h rfl ⟨255⟩ [0x37]
  have hseventeen : (h.encode ⟨255⟩).length = 17 := hsum
  have hfive : MacType.ofBits h.type.bits = .reserved 5 := by decide
  rw [hseventeen] at hlength hdecode
  rw [hfive] at htype
  exact ⟨rfl, bytes, heard, hencode, hlength, hdecode, htype, hversion.trans (by decide), hcompression, hseq, hdst,
    hsrc⟩

end Header

end UwbRanging
