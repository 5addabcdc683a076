import UwbRanging.Frame.Payload
import UwbRanging.Proofs.Frame.Blink
import UwbRanging.Proofs.Frame.Peers
import UwbRanging.Proofs.Frame.Settings

namespace UwbRanging

theorem Blink.subtype_lt (b : Blink) : b.subtype < 16 := by
  unfold subtype
  cases b.cookie.isSome <;> cases b.elements.isSome <;> decide

theorem RangingResponse.subtype_lt (r : RangingResponse) : r.subtype < 16 := by
  unfold subtype
  cases r.isOneWay <;> decide

theorem TimingReport.subtype_lt (t : TimingReport) : t.subtype < 16 := by
  unfold subtype
  cases t.timing <;> cases t.txTime.isSome <;> cases t.hasTimes <;> cases t.hasInfos <;> decide

namespace Payload

theorem typeByte_type (type : PayloadType) (subtype : UInt8) :
    (Bits.get (typeByte type subtype).toUInt32 4 4).toUInt8 = type.bits := by
  have hfield : Bits.get (typeByte type subtype).toUInt32 4 4 = type.bits.toUInt32 &&& Bits.lowMask 4 := by
    simp (disch := decide) only [typeByte, Bits.get_toUInt8, Bits.get_or, Bits.get_place,
      Bits.get_place_disjoint, UInt32.or_zero]
  rw [hfield]
  cases type <;> decide

theorem typeByte_subtype (type : PayloadType) (subtype : UInt8) (hsubtype : subtype < 16) :
    (Bits.get (typeByte type subtype).toUInt32 0 4).toUInt8 = subtype := by
  have hfield : Bits.get (typeByte type subtype).toUInt32 0 4 = subtype.toUInt32 &&& Bits.lowMask 4 := by
    simp (disch := decide) only [typeByte, Bits.get_toUInt8, Bits.get_or, Bits.get_place,
      Bits.get_place_disjoint, UInt32.zero_or]
  rw [hfield]
  exact Bits.toUInt8_field (UInt8.lt_iff_toNat_lt.mp hsubtype)

-- The rest of a subtype byte is not sent.
theorem typeByte_nibble (type : PayloadType) (subtype : UInt8) :
    typeByte type (subtype &&& 0x0f) = typeByte type subtype := by
  have hmask : (subtype &&& 0x0f).toUInt32 &&& Bits.lowMask 4 = subtype.toUInt32 &&& Bits.lowMask 4 := by
    rw [UInt8.toUInt32_and, UInt32.and_assoc]
    rfl
  rw [typeByte, typeByte, Bits.place, Bits.place, Bits.place, hmask]

theorem reads_readTagged {type : PayloadType} {subtype : UInt8} {body : List UInt8} {p : Payload}
    (hsubtype : subtype < 16) (hbody : Reads (readBody type subtype) body p) :
    Reads readTagged (typeByte type subtype :: body) p := by
  apply (Reads.u8 (typeByte type subtype)).bind
  simp only [typeByte_type, typeByte_subtype type subtype hsubtype, PayloadType.ofBits_bits]
  exact hbody

theorem reads_tagged {type : PayloadType} {subtype : UInt8} {encoding : Except FrameError (List UInt8)} {p : Payload}
    (hsubtype : subtype < 16) (hbody : ReadsBack (readBody type subtype) encoding p) :
    ∃ rest, (return tagged type subtype (← encoding)) = Except.ok (magic1 :: rest) ∧ Reads readTagged rest p := by
  obtain ⟨body, rfl, hread⟩ := hbody
  exact ⟨typeByte type subtype :: body, rfl, reads_readTagged hsubtype hread⟩

-- What the format can carry of each type. A payload of another protocol does not start like one of
-- this one.
def WellFormed : Payload → Prop
  | blink b => b.WellFormed
  | beacon b => b.subtype < 16
  | rangingRequest r => r.subtype < 16
  | rangingResponse r => r.WellFormed
  | configRequest r => r.WellFormed
  | configResponse r => r.WellFormed
  | timing t => t.WellFormed
  | encrypted _ => True
  | raw data => data.head? ≠ some magic1 ∧ data.head? ≠ some magic2

-- The first byte is read, and the payload is what it makes of the bytes behind it.
theorem decode_cons {first : UInt8} {rest : List UInt8} {c : Cursor} {p : Payload}
    (h : readFrom first ⟨rest.length + 1, rest⟩ = .ok (p, c)) : decode (first :: rest) = .ok p := by
  have hstep : (do readFrom (← Reader.u8)) (Cursor.start (first :: rest)) = .ok (p, c) := by
    calc
      (do readFrom (← Reader.u8)) (Cursor.start (first :: rest))
          = (Reader.u8 ⟨rest.length + 1, Wire.u8 first ++ rest⟩ >>= fun x => readFrom x.1 x.2) := rfl
      _ = readFrom first ⟨rest.length + 1, rest⟩ := by rw [Reads.u8 first]; rfl
      _ = .ok (p, c) := h
  rw [decode, if_neg (by simp), Reader.run, StateT.run, hstep]
  rfl

theorem decode_of_readTagged {rest : List UInt8} {p : Payload} (h : Reads readTagged rest p) :
    decode (magic1 :: rest) = .ok p := by
  have hread := h (rest.length + 1) []
  rw [List.append_nil] at hread
  apply decode_cons
  rw [readFrom, if_pos rfl]
  exact hread

theorem decode_encrypted (data : List UInt8) : decode (magic2 :: data) = .ok (encrypted data) :=
  decode_cons rfl

theorem decode_raw (data : List UInt8) (h1 : data.head? ≠ some magic1) (h2 : data.head? ≠ some magic2) :
    decode data = .ok (raw data) := by
  cases data with
  | nil => rfl
  | cons first rest =>
    have h1' : first ≠ magic1 := fun h => h1 (congrArg some h)
    have h2' : first ≠ magic2 := fun h => h2 (congrArg some h)
    apply decode_cons
    rw [readFrom, if_neg h1', if_neg h2']
    rfl

theorem encode_raw (data : List UInt8) (h1 : data.head? ≠ some magic1) (h2 : data.head? ≠ some magic2) :
    (raw data).encode = .ok data := by
  cases data with
  | nil => rfl
  | cons first rest =>
    have h1' : first ≠ magic1 := fun h => h1 (congrArg some h)
    have h2' : first ≠ magic2 := fun h => h2 (congrArg some h)
    exact if_neg (not_or.mpr ⟨h1', h2'⟩)

-- A version 1 payload is read from all the bytes that are written of it.
theorem reads_encode (p : Payload) (hw : p.WellFormed) (htype : p.type?.isSome = true) :
    ∃ rest, p.encode = .ok (magic1 :: rest) ∧ Reads readTagged rest p := by
  cases p with
  | blink b => exact reads_tagged b.subtype_lt ((b.reads_encodeBody hw).map blink)
  | beacon b => exact ⟨_, rfl, reads_readTagged hw (b.reads_encodeBody.map beacon)⟩
  | rangingRequest r =>
    have hflags := (Reads.u8 r.flags).map fun flags => rangingRequest ⟨r.subtype, flags⟩
    exact ⟨_, rfl, reads_readTagged hw hflags⟩
  | rangingResponse r => exact reads_tagged r.subtype_lt ((r.reads_encodeBody hw).map rangingResponse)
  | configRequest r => exact reads_tagged r.subtype_lt ((r.reads_encodeBody hw).map configRequest)
  | configResponse r => exact reads_tagged r.subtype_lt ((r.reads_encodeBody hw).map configResponse)
  | timing t => exact reads_tagged t.subtype_lt ((t.reads_encodeBody hw).map timing)
  | encrypted data => cases htype
  | raw data => cases htype

theorem decode_encode (p : Payload) (hw : p.WellFormed) :
    ∃ bytes, p.encode = .ok bytes ∧ decode bytes = .ok p := by
  cases htype : p.type? with
  | some type =>
    obtain ⟨rest, hencode, hread⟩ := p.reads_encode hw (by rw [htype]; rfl)
    exact ⟨magic1 :: rest, hencode, decode_of_readTagged hread⟩
  | none =>
    cases p with
    | encrypted data => exact ⟨magic2 :: data, rfl, decode_encrypted data⟩
    | raw data =>
      obtain ⟨h1, h2⟩ := hw
      exact ⟨data, encode_raw data h1 h2, decode_raw data h1 h2⟩
    | _ => cases htype

end Payload

end UwbRanging
