import UwbRanging.Proofs.Frame.Heard

namespace UwbRanging

namespace Element

-- The values that an id has room for, by the ranges of ids. A byte string may be of any length, since it is cut.
def InRange (e : Element) : Prop :=
  match e.value with
  | .int n => e.id < 0x40 ∧ n.toNat < 2 ^ 8 ∨ 0x40 ≤ e.id ∧ e.id < 0x80 ∧ n.toNat < 2 ^ 16 ∨ 0x80 ≤ e.id ∧ e.id < 0xc0
  | .bytes _ => 0xc0 ≤ e.id

-- The widths split the ids at the same places.
theorem fits_iff_inRange (e : Element) : e.Fits ↔ e.InRange := by
  obtain ⟨id, value⟩ := e
  unfold Fits InRange Width.ofId
  simp only [UInt8.lt_iff_toNat_lt, UInt8.le_iff_toNat_le, UInt32.lt_iff_toNat_lt, UInt8.reduceToNat,
    UInt32.reduceToNat]
  by_cases hbyte : id.toNat < 64
  · cases value <;> simp only [if_pos hbyte, false_iff] <;> omega
  · by_cases hword : id.toNat < 128
    · cases value <;> simp only [if_neg hbyte, if_pos hword, false_iff] <;> omega
    · by_cases hlong : id.toNat < 192
      · cases value <;> simp only [if_neg hbyte, if_neg hword, if_pos hlong, true_iff, false_iff] <;> omega
      · cases value <;> simp only [if_neg hbyte, if_neg hword, if_neg hlong, true_iff, false_iff] <;> omega

end Element

namespace Payload

-- What the format cannot carry.
def Unwritable : Payload → Prop
  | blink b => ∃ es, b.elements = some es ∧ (255 < es.length ∨ ∃ e ∈ es, ¬ e.InRange)
  | rangingResponse r => ∃ peers, r.rxTimes = some peers ∧ 255 < peers.length
  | configRequest r => 255 < r.count
  | configResponse r => 255 < r.count
  | timing t => ¬ t.Alike ∨ (∃ e ∈ t.entries, e.isBare = false) ∧ 255 < t.entries.length
  | raw data => data.head? = some 0x37 ∨ data.head? = some 0x38
  | beacon _ => False
  | rangingRequest _ => False
  | encrypted _ => False

-- An element is at fault, and `id` is that of the first such one.
def Misfit (p : Payload) (id : UInt8) : Prop :=
  ∃ b front e back, p = blink b ∧ b.elements = some (front ++ e :: back) ∧ (front ++ e :: back).length ≤ 255 ∧
    (∀ x ∈ front, x.InRange) ∧ ¬ e.InRange ∧ e.id = id

variable {p : Payload}

theorem Refuses.unwritable {error : FrameError} (h : p.Refuses error) : p.Unwritable := by
  cases h with
  | elementCount hes hcount => exact ⟨_, hes, .inl hcount⟩
  | @elementWidth b front back e hes hcount hfront hbad =>
    exact ⟨_, hes, .inr ⟨e, by simp, e.fits_iff_inRange.not.mp hbad⟩⟩
  | peerCount hpeers hcount => exact ⟨_, hpeers, hcount⟩
  | requestCount hcount => exact hcount
  | responseCount hcount => exact hcount
  | entryFields hmixed => exact .inl hmixed
  | entryCount halike hfull hcount =>
    obtain ⟨e, he⟩ := List.exists_mem_of_length_pos (Nat.lt_trans (by decide) hcount)
    exact .inr ⟨⟨e, he, hfull e he⟩, hcount⟩
  | magic hmagic => exact hmagic.imp (congrArg some) (congrArg some)

theorem Unwritable.refuses (h : p.Unwritable) : ∃ error, p.Refuses error := by
  cases p with
  | blink b =>
    obtain ⟨es, hes, hbad⟩ := h
    by_cases hcount : 255 < es.length
    · exact ⟨_, .elementCount hes hcount⟩
    · have hmisfit : ¬ ∀ e ∈ es, e.Fits := by
        obtain ⟨e, he, hrange⟩ := hbad.resolve_left hcount
        exact fun hall => hrange (e.fits_iff_inRange.mp (hall e he))
      obtain ⟨front, e, back, rfl, hfront, hfits⟩ := Element.exists_first_misfit hmisfit
      exact ⟨_, .elementWidth hes (Nat.le_of_not_lt hcount) hfront hfits⟩
  | rangingResponse r =>
    obtain ⟨peers, hpeers, hcount⟩ := h
    exact ⟨_, .peerCount hpeers hcount⟩
  | configRequest r => exact ⟨_, .requestCount h⟩
  | configResponse r => exact ⟨_, .responseCount h⟩
  | timing t =>
    by_cases halike : t.Alike
    · obtain ⟨⟨e, he, hfull⟩, hcount⟩ := h.resolve_left (not_not_intro halike)
      refine ⟨_, .entryCount halike (fun other hother => ?_) hcount⟩
      -- one entry that is not bare speaks for all of them
      rw [← Bool.not_inj_iff, ← halike.announced hother, halike.announced he, hfull]
    · exact ⟨_, .entryFields halike⟩
  | raw data =>
    rcases h with hhead | hhead
    · obtain ⟨rest, rfl⟩ := List.head?_eq_some_iff.mp hhead
      exact ⟨_, .magic (.inl rfl)⟩
    · obtain ⟨rest, rfl⟩ := List.head?_eq_some_iff.mp hhead
      exact ⟨_, .magic (.inr rfl)⟩
  | beacon b => exact h.elim
  | rangingRequest r => exact h.elim
  | encrypted data => exact h.elim

theorem refuses_elementWidth_iff {id : UInt8} : p.Refuses (.elementWidth id) ↔ p.Misfit id := by
  constructor
  · intro h
    cases h with
    | @elementWidth b front back e hes hcount hfront hbad =>
      exact ⟨b, front, e, back, rfl, hes, hcount, fun x hx => x.fits_iff_inRange.mp (hfront x hx),
        e.fits_iff_inRange.not.mp hbad, rfl⟩
  · rintro ⟨b, front, e, back, rfl, hes, hcount, hfront, hbad, rfl⟩
    exact .elementWidth hes hcount (fun x hx => x.fits_iff_inRange.mpr (hfront x hx)) (e.fits_iff_inRange.not.mpr hbad)

theorem Refuses.cases_error {error : FrameError} (h : p.Refuses error) :
    (∃ id, error = .elementWidth id) ∨ ∃ feature, error = .unsupported feature := by
  cases h with
  | elementWidth hes hcount hfront hbad => exact .inl ⟨_, rfl⟩
  | _ => exact .inr ⟨_, rfl⟩

theorem subtype?_lt {subtype : UInt8} (h : p.subtype? = some subtype) : subtype < 16 := by
  cases p with
  | blink b => exact Option.some.inj h ▸ b.subtype_lt
  | beacon b => exact Option.some.inj h ▸ Bits.and_nibble_lt b.subtype
  | rangingRequest r => exact Option.some.inj h ▸ Bits.and_nibble_lt r.subtype
  | rangingResponse r => exact Option.some.inj h ▸ r.subtype_lt
  | configRequest r => exact Option.some.inj h ▸ r.subtype_lt
  | configResponse r => exact Option.some.inj h ▸ r.subtype_lt
  | timing t => exact Option.some.inj h ▸ t.subtype_lt
  | encrypted data => cases h
  | raw data => cases h

theorem exists_of_tagged {type : PayloadType} {subtype : UInt8} {body : Except FrameError (List UInt8)}
    {bytes : List UInt8} (h : (return tagged type subtype (← body)) = Except.ok bytes) :
    ∃ rest, bytes = tagged type subtype rest := by
  cases body with
  | error e => cases h
  | ok rest => exact ⟨rest, (Except.ok.inj h).symm⟩

-- Every version 1 payload announces its type and its subtype.
theorem exists_tagged {type : PayloadType} {bytes : List UInt8} (htype : p.type? = some type)
    (hencode : p.encode = .ok bytes) :
    ∃ subtype rest, p.subtype? = some subtype ∧ bytes = tagged type subtype rest := by
  cases p with
  | blink b =>
    cases htype
    obtain ⟨rest, hrest⟩ := exists_of_tagged hencode
    exact ⟨_, rest, rfl, hrest⟩
  | beacon b =>
    cases htype
    cases hencode
    exact ⟨_, _, rfl, by rw [tagged, tagged, typeByte_nibble]⟩
  | rangingRequest r =>
    cases htype
    cases hencode
    exact ⟨_, _, rfl, by rw [tagged, tagged, typeByte_nibble]⟩
  | rangingResponse r =>
    cases htype
    obtain ⟨rest, hrest⟩ := exists_of_tagged hencode
    exact ⟨_, rest, rfl, hrest⟩
  | configRequest r =>
    cases htype
    obtain ⟨rest, hrest⟩ := exists_of_tagged hencode
    exact ⟨_, rest, rfl, hrest⟩
  | configResponse r =>
    cases htype
    obtain ⟨rest, hrest⟩ := exists_of_tagged hencode
    exact ⟨_, rest, rfl, hrest⟩
  | timing t =>
    cases htype
    obtain ⟨rest, hrest⟩ := exists_of_tagged hencode
    exact ⟨_, rest, rfl, hrest⟩
  | encrypted data => cases htype
  | raw data => cases htype

-- A payload is refused just for what the format cannot carry. The error names the element at fault if it is one, and
-- else what is not supported. A payload that is written tells its type and the subtype that it reports.
theorem encode_unwritable (p : Payload) :
    ((∃ error, p.encode = .error error) ↔ p.Unwritable) ∧
    (∀ id, p.encode = .error (.elementWidth id) ↔ p.Misfit id) ∧
    (p.Unwritable → (∀ id, ¬ p.Misfit id) → ∃ feature, p.encode = .error (.unsupported feature)) ∧
    ∀ type bytes, p.type? = some type → p.encode = .ok bytes →
      ∃ byte rest, bytes = magic1 :: byte :: rest ∧ (Bits.get byte.toUInt32 4 4).toUInt8 = type.bits ∧
        p.subtype? = some (Bits.get byte.toUInt32 0 4).toUInt8 := by
  simp only [encode_eq_error_iff]
  refine ⟨⟨fun ⟨_, h⟩ => h.unwritable, fun h => h.refuses⟩, fun id => refuses_elementWidth_iff, ?_, ?_⟩
  · intro hunwritable hfit
    obtain ⟨error, herror⟩ := hunwritable.refuses
    rcases herror.cases_error with ⟨id, rfl⟩ | ⟨feature, rfl⟩
    · exact (hfit id (refuses_elementWidth_iff.mp herror)).elim
    · exact ⟨feature, herror⟩
  · intro type bytes htype hencode
    obtain ⟨subtype, rest, hsubtype, rfl⟩ := exists_tagged htype hencode
    refine ⟨typeByte type subtype, rest, rfl, typeByte_type type subtype, ?_⟩
    rw [typeByte_subtype type subtype (subtype?_lt hsubtype), hsubtype]

-- Two elements of this blink do not fit, and the first of them is named. Of the beacon's subtype only half is sent.
theorem encode_unwritable_wideVoltage :
    let p := blink { elements := some [⟨0x00, .int 0x20⟩, ⟨0x40, .int 0x10000⟩, ⟨0xff, .int 1⟩] }
    p.encode = .error (.elementWidth 0x40) ∧ p.Unwritable ∧ p.Misfit 0x40 ∧
      ∃ byte rest, (beacon ⟨0x2a, 1, 7⟩).encode = .ok (magic1 :: byte :: rest) ∧
        (Bits.get byte.toUInt32 0 4).toUInt8 = 0x0a := by
  intro p
  have hrefused : p.encode = .error (.elementWidth 0x40) := rfl
  obtain ⟨hunwritable, hmisfit, -, -⟩ := encode_unwritable p
  obtain ⟨-, -, -, hannounced⟩ := encode_unwritable (beacon ⟨0x2a, 1, 7⟩)
  obtain ⟨byte, rest, hbytes, -, hsubtype⟩ := hannounced .beacon _ rfl rfl
  exact ⟨hrefused, hunwritable.mp ⟨_, hrefused⟩, (hmisfit 0x40).mp hrefused, byte, rest, congrArg Except.ok hbytes,
    (Option.some.inj hsubtype).symm⟩

end Payload

end UwbRanging
