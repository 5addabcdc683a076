import UwbRanging.Proofs.Frame.Heard
import UwbRanging.Proofs.Frame.Numbering
import UwbRanging.Proofs.Frame.Steady

namespace UwbRanging

namespace Payload

-- The bytes of a version 1 payload are all needed. Without the last of them there is none to be read.
theorem decode_take_tail {p : Payload} {body : List UInt8} (htype : p.type?.isSome = true)
    (hencode : p.encode = .ok body) {k : Nat} (hpos : 0 < k) (hk : k < body.length) :
    ∃ need, decode (body.take k) = .error (.truncated need k) ∧ k < need ∧ need ≤ body.length := by
  obtain ⟨rest, rfl, hread⟩ := reads_encode_heard htype hencode
  have hwhole : Reads (do let _ ← Reader.u8; readTagged) (magic1 :: rest) p.heard := (Reads.u8 magic1).bind hread
  obtain ⟨need, hcut, hneed⟩ := steady_magic1.run_take hwhole hk
  obtain ⟨j, rfl⟩ := Nat.exists_eq_succ_of_ne_zero (Nat.ne_of_gt hpos)
  rw [List.take_succ_cons] at hcut ⊢
  exact ⟨need, by rw [decode_magic1, hcut]; rfl, hneed⟩

theorem decode_take_encrypted {data body : List UInt8} (hencode : (encrypted data).encode = .ok body) {k : Nat}
    (hpos : 0 < k) : decode (body.take k) = .ok (encrypted (data.take (k - 1))) := by
  cases hencode
  obtain ⟨j, rfl⟩ := Nat.exists_eq_succ_of_ne_zero (Nat.ne_of_gt hpos)
  rw [List.take_succ_cons, decode_encrypted]
  rfl

theorem decode_take_raw {data body : List UInt8} (hencode : (raw data).encode = .ok body) (k : Nat) :
    decode (body.take k) = .ok (raw (data.take k)) := by
  obtain ⟨hmagic1, hmagic2⟩ : data.head? ≠ some magic1 ∧ data.head? ≠ some magic2 :=
    heard_wellFormed (not_refuses_of_encode hencode)
  rw [encode_raw data hmagic1 hmagic2] at hencode
  cases hencode
  have hhead {magic : UInt8} (hmagic : data.head? ≠ some magic) : (data.take k).head? ≠ some magic := by
    rw [List.head?_take]
    split
    · exact nofun
    · exact hmagic
  exact decode_raw _ (hhead hmagic1) (hhead hmagic2)

end Payload

namespace Frame

-- What is read of the first `k` bytes of a frame, with `n` the length of its header and `header` what it is read as.
structure Cuts (f : Frame) (bytes : List UInt8) (n : Nat) (header : Header) (ancillary : List ControlMessage) :
    Prop where
  length_le : n ≤ bytes.length
  inHeader : ∀ k < n, ∃ need, decode (bytes.take k) ancillary = .error (.truncated need k) ∧ k < need ∧ need ≤ n
  behindHeader : decode (bytes.take n) ancillary = .ok ⟨header, .raw [], HardwareTimestamp.ofAncillary ancillary⟩
  -- the bytes of a payload are counted from where it starts
  inTail : f.payload.type?.isSome = true → ∀ k, n < k → k < bytes.length →
    ∃ need, decode (bytes.take k) ancillary = .error (.truncated need (k - n)) ∧ k - n < need ∧ need ≤ bytes.length - n
  inEncrypted : ∀ data, f.payload = .encrypted data → ∀ k > n, decode (bytes.take k) ancillary =
    .ok ⟨header, .encrypted (data.take (k - n - 1)), HardwareTimestamp.ofAncillary ancillary⟩
  inRaw : ∀ data, f.payload = .raw data → ∀ k > n, decode (bytes.take k) ancillary =
    .ok ⟨header, .raw (data.take (k - n)), HardwareTimestamp.ofAncillary ancillary⟩

theorem decode_eq_error {bytes : List UInt8} {error : FrameError} (h : Header.decode bytes = .error error)
    (ancillary : List ControlMessage) : decode bytes ancillary = .error error := by
  rw [decode, h]
  rfl

-- A cut behind the header is one of the payload.
theorem decode_take_behind {front : List UInt8} {header : Header} (hread : Reads Header.read front header)
    (body : List UInt8) {k : Nat} (hk : front.length ≤ k) (ancillary : List ControlMessage) :
    decode ((front ++ body).take k) ancillary = (Payload.decode (body.take (k - front.length))).map
      fun p => ⟨header, p, HardwareTimestamp.ofAncillary ancillary⟩ := by
  rw [List.take_append, List.take_of_length_le hk, decode_append hread]

-- The frame as its receiver gets it, whole and in parts. The header is the one that was sent if it has no field that
-- the air does not carry.
theorem decode_take {f : Frame} {counter : SequenceCounter} {bytes : List UInt8}
    (hencode : (f.encode counter).outcome = .ok bytes) (ancillary : List ControlMessage) :
    ∃ header,
      decode bytes ancillary = .ok ⟨header, f.payload.heard, HardwareTimestamp.ofAncillary ancillary⟩ ∧
      (header = (f.encode counter).frame.header ↔ f.header.WellFormed) ∧
      f.Cuts bytes (f.header.encode counter).length header ancillary := by
  obtain ⟨hsecurity, body, hbody, rfl⟩ := exists_of_outcome_ok hencode
  obtain ⟨sent, hsent⟩ : ∃ sent, sent = (f.numbered counter).header := ⟨_, rfl⟩
  rw [← hsent]
  have hread : Reads Header.read sent.toWire sent.heard := sent.reads_toWire (by rw [hsent]; exact hsecurity)
  have hlength : (f.header.encode counter).length = sent.toWire.length := by
    rw [Header.encode_of_not_security hsecurity, Header.number_fst, sent.length_toWire, hsent]
    rfl
  have hbehind {k : Nat} (hk : sent.toWire.length ≤ k) := decode_take_behind hread body hk ancillary
  refine ⟨sent.heard, ?_, ?_, ?_⟩
  · rw [decode_append hread, Payload.decode_encode_heard hbody]
    rfl
  · rw [encode_of_payload counter hsecurity hbody, hsent]
    exact f.header.heard_eq_iff hsecurity _
  · rw [hlength]
    constructor
    case length_le => simp
    case inHeader =>
      intro k hk
      obtain ⟨need, hcut, hneed⟩ := Header.steady_read.run_take hread hk
      rw [List.take_append_of_le_length (Nat.le_of_lt hk)]
      exact ⟨need, decode_eq_error hcut ancillary, hneed⟩
    case behindHeader =>
      rw [hbehind (Nat.le_refl _), Nat.sub_self]
      rfl
    case inTail =>
      intro htype k hlow hhigh
      rw [List.length_append] at hhigh ⊢
      obtain ⟨need, hcut, hneed, hle⟩ := Payload.decode_take_tail htype hbody (Nat.sub_pos_of_lt hlow)
        (show k - sent.toWire.length < body.length by omega)
      refine ⟨need, ?_, hneed, by omega⟩
      rw [hbehind (Nat.le_of_lt hlow), hcut]
      rfl
    case inEncrypted =>
      intro data hdata k hk
      rw [hbehind (Nat.le_of_lt hk), Payload.decode_take_encrypted (hdata ▸ hbody) (Nat.sub_pos_of_lt hk)]
      rfl
    case inRaw =>
      intro data hdata k hk
      rw [hbehind (Nat.le_of_lt hk), Payload.decode_take_raw (hdata ▸ hbody)]
      rfl

-- An answer to one peer. Its header has nine bytes.
def answer : Frame where
  header := { dstPan := 0x1234, dst := some (.short 7), srcPan := 0x1234, src := some (.short 9) }
  payload := .rangingResponse ⟨0x0102030405, some [(.short 7, 1)]⟩

theorem answer_wellFormed : answer.header.WellFormed where
  security := rfl
  version := by decide
  type := nofun
  dstPan := nofun
  compressed := fun _ => rfl
  srcPan := nofun

theorem decode_take_answer : ∃ bytes, (answer.encode {}).outcome = .ok bytes ∧ bytes.length = 25 ∧
    decode (bytes.take 9) [] = .ok { header := { answer.header with seq := some 0 }, payload := .raw [] } ∧
    ∀ k, 9 < k → k < 25 →
      ∃ need, decode (bytes.take k) [] = .error (.truncated need (k - 9)) ∧ k - 9 < need ∧ need ≤ 16 := by
  obtain ⟨bytes, hencode, hlength⟩ : ∃ bytes, (answer.encode {}).outcome = .ok bytes ∧ bytes.length = 25 :=
    ⟨_, rfl, rfl⟩
  obtain ⟨header, -, hheader, hcuts⟩ := decode_take hencode []
  have hsame : header = { answer.header with seq := some 0 } := hheader.mpr answer_wellFormed
  have hbehind := hcuts.behindHeader
  have htail := hcuts.inTail rfl
  rw [hlength] at htail
  rw [hsame] at hbehind
  exact ⟨bytes, hencode, hlength, hbehind, htail⟩

end Frame

end UwbRanging
