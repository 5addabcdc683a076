import UwbRanging.Proofs.Frame.RoundTrip

namespace UwbRanging

namespace Header

variable (h : Header)

theorem security_number (counter : SequenceCounter) : (h.number counter).1.security = h.security := by
  rw [number_fst]

theorem heard_number (counter : SequenceCounter) :
    (h.number counter).1.heard = { h.heard with seq := some (h.seq.getD counter.next) } := by
  rw [number_fst]
  rfl

-- Whatever follows, a header that was written is read back as its receiver hears it.
theorem decode_encode_heard (hsecurity : h.security = false) (counter : SequenceCounter) (suffix : List UInt8) :
    ∃ bytes, (h.encode counter).outcome = .ok bytes ∧
      decode (bytes ++ suffix) = .ok ({ h.heard with seq := some (h.seq.getD counter.next) }, bytes.length) := by
  have hnumbered : (h.number counter).1.security = false := (h.security_number counter).trans hsecurity
  refine ⟨(h.number counter).1.toWire, by rw [encode_of_not_security hsecurity], ?_⟩
  rw [← heard_number]
  exact ((h.number counter).1.reads_toWire hnumbered).run suffix

variable {h}

theorem heardDstPan_of_dst (hdst : h.dst.isSome = true) : h.heardDstPan = h.dstPan := if_pos hdst

-- A source PAN that is left out is taken from the destination. Where there is none, nothing is left of it.
theorem heardSrcPan_of_src (hsrc : h.src.isSome = true) :
    h.heardSrcPan = if h.compressesPan = true ∧ h.dst = none then 0xffff else h.srcPan := by
  unfold heardSrcPan
  cases hcompressed : h.compressesPan with
  | false => simp [hsrc]
  | true =>
    have hpans : h.srcPan = h.dstPan := by
      unfold compressesPan at hcompressed
      exact eq_of_beq (Bool.and_eq_true_iff.mp hcompressed).2
    cases hdst : h.dst with
    | none => simp [heardDstPan, hdst]
    | some dst => simp [heardDstPan, hdst, hpans]

-- PANs survive the way through the air, but for that of a source without a destination: if it is left out,
-- it is heard as the broadcast PAN, and lost unless it is that.
theorem decode_encode_pans (h : Header) (hsecurity : h.security = false) (counter : SequenceCounter)
    (suffix : List UInt8) :
    ∃ bytes heard, (h.encode counter).outcome = .ok bytes ∧
      decode (bytes ++ suffix) = .ok (heard, bytes.length) ∧ heard.dst = h.dst ∧ heard.src = h.src ∧
      (h.dst.isSome = true → heard.dstPan = h.dstPan) ∧
      (h.src.isSome = true →
        heard.srcPan = (if h.compressesPan = true ∧ h.dst = none then 0xffff else h.srcPan) ∧
        (heard.srcPan = h.srcPan ↔ h.dst.isSome = true ∨ h.compressesPan = false ∨ h.srcPan = 0xffff)) := by
  obtain ⟨bytes, hencode, hdecode⟩ := h.decode_encode_heard hsecurity counter suffix
  refine ⟨bytes, _, hencode, hdecode, rfl, rfl, heardDstPan_of_dst, fun hsrc => ?_⟩
  have hpan := heardSrcPan_of_src hsrc
  refine ⟨hpan, ?_⟩
  rw [show ({ h.heard with seq := some (h.seq.getD counter.next) } : Header).srcPan = h.heardSrcPan from rfl, hpan]
  cases hdst : h.dst with
  | some dst => simp
  | none => cases hcompressed : h.compressesPan <;> simp [eq_comm]

theorem decode_encode_pans_onePan :
    let h : Header := { dstPan := 0x1234, dst := some (.extended ⟨7⟩), srcPan := 0x1234, src := some (.short 1) }
    h.security = false ∧ h.src.isSome = true ∧ h.compressesPan = true ∧
      ∃ bytes heard, (h.encode {}).outcome = .ok bytes ∧ decode (bytes ++ [0x37]) = .ok (heard, bytes.length) ∧
        heard.dstPan = 0x1234 ∧ heard.srcPan = 0x1234 := by
  intro h
  obtain ⟨bytes, heard, hencode, hdecode, -, -, hdst, hsrc⟩ := decode_encode_pans h rfl {} [0x37]
  exact ⟨rfl, rfl, rfl, bytes, heard, hencode, hdecode, hdst rfl, (hsrc rfl).2.mpr (.inl rfl)⟩

-- The same source sends to nobody. Its header asks for compression, and its PAN is lost.
theorem decode_encode_pans_loneSource :
    let h : Header := { dstPan := 0x1234, srcPan := 0x1234, src := some (.short 1) }
    (h.encode {}).outcome = .ok [0x41, 0x90, 0, 1, 0] ∧
      decode [0x41, 0x90, 0, 1, 0] = .ok ({ src := some (.short 1), seq := some 0, srcPan := 0xffff }, 5) :=
  ⟨rfl, rfl⟩

end Header

end UwbRanging
