import UwbRanging.Frame.Basic
import UwbRanging.Proofs.Frame.Payload
import UwbRanging.Proofs.Frame.Timestamp

namespace UwbRanging

namespace Header

-- A header whose fields all have a place on the air. An absent address leaves no PAN of its own, and
-- a header that asks for compression has one PAN only.
structure WellFormed (h : Header) : Prop where
  security : h.security = false
  version : h.version < 4
  type : ∀ n, h.type = .reserved n → 4 ≤ n ∧ n ≤ 7
  dstPan : h.dst = none → h.dstPan = 0xffff
  compressed : h.panCompression = true → h.srcPan = h.dstPan
  srcPan : h.panCompression = false → h.src = none → h.srcPan = 0xffff

theorem WellFormed.ofBits_type {h : Header} (hw : h.WellFormed) : MacType.ofBits h.type.bits = h.type := by
  cases htype : h.type with
  | reserved n =>
    obtain ⟨hlow, hhigh⟩ := hw.type n htype
    exact MacType.ofBits_reserved n hlow hhigh
  | beacon => decide
  | data => decide
  | ack => decide
  | command => decide

theorem WellFormed.compressesPan_eq {h : Header} (hw : h.WellFormed) : h.compressesPan = h.panCompression := by
  unfold compressesPan
  cases hpan : h.panCompression with
  | false => rfl
  | true => simp [hw.compressed hpan]

theorem WellFormed.heardDstPan_eq {h : Header} (hw : h.WellFormed) : h.heardDstPan = h.dstPan := by
  unfold heardDstPan
  cases hdst : h.dst with
  | none => exact (hw.dstPan hdst).symm
  | some dst => rfl

theorem WellFormed.heardSrcPan_eq {h : Header} (hw : h.WellFormed) : h.heardSrcPan = h.srcPan := by
  unfold heardSrcPan
  rw [hw.compressesPan_eq, hw.heardDstPan_eq]
  cases hpan : h.panCompression with
  | true => exact (hw.compressed hpan).symm
  | false =>
    cases hsrc : h.src with
    | none => exact (hw.srcPan hpan hsrc).symm
    | some src => rfl

-- Its receiver sees the very header that was sent, number included.
theorem WellFormed.heard_eq {h : Header} (hw : h.WellFormed) : h.heard = { h with seq := some (h.seq.getD 0) } := by
  have hversion : h.version.toNat < 2 ^ (2 : UInt32).toNat := UInt8.lt_iff_toNat_lt.mp hw.version
  unfold heard
  rw [hw.ofBits_type, Bits.toUInt8_field hversion, hw.compressesPan_eq, hw.heardDstPan_eq, hw.heardSrcPan_eq,
    hw.security]

theorem WellFormed.withSeq {h : Header} (hw : h.WellFormed) (seq : Option UInt8) :
    ({ h with seq := seq } : Header).WellFormed :=
  ⟨hw.security, hw.version, hw.type, hw.dstPan, hw.compressed, hw.srcPan⟩

-- A header gets the next number of the counter, unless it has one.
theorem number_fst (h : Header) (counter : SequenceCounter) :
    (h.number counter).1 = { h with seq := some (h.seq.getD counter.next) } := by
  unfold number
  split
  · rename_i n hseq
    have hsome : some (h.seq.getD counter.next) = h.seq := by rw [hseq]; rfl
    rw [hsome]
  · rename_i hseq
    rw [hseq]
    rfl

theorem encode_of_not_security {h : Header} (hsecurity : h.security = false) (counter : SequenceCounter) :
    h.encode counter =
      ⟨.ok (h.number counter).1.toWire, (h.number counter).1.length, (h.number counter).1, (h.number counter).2⟩ := by
  rw [encode, hsecurity]
  rfl

end Header

namespace Frame

structure WellFormed (f : Frame) : Prop where
  header : f.header.WellFormed
  payload : f.payload.WellFormed

-- A well-formed frame can be written, and whoever receives it reads the frame that its sender holds
-- afterwards, with the timestamp that the receiving interface attached.
theorem decode_encode_of_wellFormed (f : Frame) (counter : SequenceCounter) (ts : HardwareTimestamp)
    (hw : f.WellFormed) :
    ∃ bytes, (f.encode counter).outcome = .ok bytes ∧
      decode bytes [ControlMessage.timestamping ts] = .ok { (f.encode counter).frame with timestamp := some ts } ∧
      (f.encode counter).frame = { f with header.seq := some (f.header.seq.getD counter.next) } := by
  obtain ⟨body, hbody, hpayload⟩ := f.payload.decode_encode hw.payload
  obtain ⟨sent, hsent⟩ : ∃ sent, sent = (f.header.number counter).1 := ⟨_, rfl⟩
  have hnumber : sent = { f.header with seq := some (f.header.seq.getD counter.next) } :=
    hsent.trans (f.header.number_fst counter)
  have hwell : sent.WellFormed := hnumber ▸ hw.header.withSeq _
  have hheard : sent.heard = sent := by
    rw [hwell.heard_eq, hnumber]
    rfl
  have hencode := Header.encode_of_not_security hw.header.security counter
  rw [← hsent] at hencode
  have hheader : Header.decode (sent.toWire ++ body) = .ok (sent, sent.toWire.length) := by
    have hrun := (Header.reads_toWire sent hwell.security).run body
    rwa [hheard] at hrun
  refine ⟨sent.toWire ++ body, ?_, ?_, ?_⟩
  · rw [encode, hencode, hbody]
    rfl
  · rw [encode, hencode, decode, hheader, HardwareTimestamp.ofAncillary_timestamping]
    dsimp only [Bind.bind, Except.bind]
    rw [List.drop_left, hpayload]
    rfl
  · rw [encode, hencode, hnumber]

-- A timing report of two peers under a reserved type, with a short and a long address, the largest
-- time, and no number of its own.
def surveyReport : Frame where
  header := {
    type := .reserved 5
    version := 3
    dstPan := 0x1234
    dst := some (.short 0xbeef)
    srcPan := 0x1234
    src := some (.extended ⟨0x70b3d5b1e0000001⟩) }
  payload := .timing ⟨true, some 0xffffffffff,
    [⟨.short 7, some 1, some ⟨1, 2, 3, 4⟩⟩, ⟨.extended ⟨0x70b3d5b1e0000024⟩, some 2, some ⟨5, 6, 7, 8⟩⟩]⟩

theorem surveyReport_wellFormed : surveyReport.WellFormed where
  header := {
    security := rfl
    version := by decide
    type := by
      rintro n ⟨⟩
      decide
    dstPan := by
      rintro ⟨⟩
    compressed := fun _ => rfl
    srcPan := by
      rintro ⟨⟩ }
  payload := {
    txTime := by
      rintro time ⟨⟩
      decide
    count := by decide
    times := by
      intro e he time htime
      simp only [List.mem_cons, List.not_mem_nil, or_false] at he
      rcases he with rfl | rfl
      · cases htime
        decide
      · cases htime
        decide
    fields := ⟨true, true, rfl, by decide⟩ }

theorem decode_encode_surveyReport : surveyReport.WellFormed ∧
    ∃ bytes, (surveyReport.encode ⟨255⟩).outcome = .ok bytes ∧
      decode bytes [ControlMessage.timestamping {}] =
        .ok { (surveyReport.encode ⟨255⟩).frame with timestamp := some {} } ∧
      (surveyReport.encode ⟨255⟩).frame = { surveyReport with header.seq := some 255 } :=
  ⟨surveyReport_wellFormed, decode_encode_of_wellFormed surveyReport ⟨255⟩ {} surveyReport_wellFormed⟩

end Frame

end UwbRanging
