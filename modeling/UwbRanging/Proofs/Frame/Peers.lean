import UwbRanging.Frame.Timing
import UwbRanging.Proofs.Frame.Header
import UwbRanging.Proofs.Wire.LongMask

namespace UwbRanging

theorem Beacon.reads_encodeBody (b : Beacon) : Reads (Beacon.readBody b.subtype) b.encodeBody b := by
  have hreference : b.reference.toNat < LittleEndian.span 8 := b.reference.toNat_lt
  have h := (Reads.u8 b.flags).map₂ (Reads.nat hreference) fun flags n =>
    Beacon.mk b.subtype flags (UInt64.ofNat n)
  rwa [UInt64.ofNat_toNat] at h

-- What peers of one list are read with: the mask tells how long each address is.
theorem reads_masked {α : Type} {step : Bool → Reader α} {addr : α → Address} {wire : α → List UInt8}
    {peers : List α} (hcount : peers.length ≤ 255)
    (hstep : ∀ a ∈ peers, Reads (step (addr a).isLong) (wire a) a) :
    Reads (do Reader.each step (← LongMask.decode))
      (LongMask.encode (peers.map fun a => (addr a).isLong) ++ peers.flatMap wire) peers := by
  have hmask := LongMask.reads_encode (peers.map fun a => (addr a).isLong) (by simpa using hcount)
  exact hmask.bind (Reads.each hstep)

theorem checkPeers_eq_ok {count : Nat} (hcount : count ≤ 255) : checkPeers count = .ok () :=
  if_neg (by omega)

namespace RangingResponse

-- The times have 40 bits, and the peers can be counted.
structure WellFormed (r : RangingResponse) : Prop where
  txTime : r.txTime.toNat < 2 ^ 40
  peers : ∀ peers, r.rxTimes = some peers → peers.length ≤ 255 ∧ ∀ p ∈ peers, p.2.toNat < 2 ^ 40

theorem subtype_field (r : RangingResponse) : (!Bits.test r.subtype.toUInt32 3) = r.rxTimes.isSome := by
  unfold subtype isOneWay
  cases r.rxTimes with
  | none => decide
  | some peers =>
    simp only [Option.isNone_some, Option.isSome_some]
    decide

theorem reads_peers (peers : List (Address × UInt64)) (hcount : peers.length ≤ 255)
    (htimes : ∀ p ∈ peers, p.2.toNat < 2 ^ 40) : Reads readPeers (encodePeers peers) peers := by
  apply reads_masked hcount
  intro p hp
  exact (Header.reads_address p.1).map₂ (Reads.u40 (htimes p hp)) Prod.mk

theorem reads_encodeBody (r : RangingResponse) (hw : r.WellFormed) :
    ReadsBack (readBody r.subtype) r.encodeBody r := by
  obtain ⟨txTime, rxTimes⟩ := r
  obtain ⟨htx, hpeers⟩ := hw
  unfold readBody
  rw [subtype_field]
  cases rxTimes with
  | none => exact ⟨_, rfl, (Reads.u40 htx).map fun t => RangingResponse.mk t none⟩
  | some peers =>
    obtain ⟨hcount, htimes⟩ := hpeers peers rfl
    refine ⟨Wire.u40 txTime ++ encodePeers peers, ?_, ?_⟩
    · dsimp only [encodeBody]
      rw [checkPeers_eq_ok hcount]
      rfl
    · have hread := (reads_peers peers hcount htimes).map some
      exact (Reads.u40 htx).map₂ hread RangingResponse.mk

end RangingResponse

theorem RxInfo.reads_toWire (i : RxInfo) : Reads RxInfo.read i.toWire i := by
  unfold toWire
  rw [List.append_assoc, List.append_assoc]
  apply (Reads.u16 i.first).bind
  apply (Reads.u16 i.second).bind
  exact (Reads.u16 i.third).map₂ (Reads.u16 i.fourth) (RxInfo.mk i.first i.second)

namespace TimingEntry

-- An entry is read with the fields that it carries.
theorem reads_toWire (e : TimingEntry) (htime : ∀ t, e.rxTime = some t → t.toNat < 2 ^ 40) :
    Reads (read e.rxTime.isSome e.rxInfo.isSome e.addr.isLong) e.toWire e := by
  have htimes : Reads (Reader.when e.rxTime.isSome Reader.u40) (e.rxTime.elim [] Wire.u40) e.rxTime :=
    Reads.when fun t ht => Reads.u40 (htime t ht)
  have hinfos : Reads (Reader.when e.rxInfo.isSome RxInfo.read) (e.rxInfo.elim [] RxInfo.toWire) e.rxInfo :=
    Reads.when fun i _ => i.reads_toWire
  have hfields := htimes.map₂ hinfos (TimingEntry.mk e.addr)
  unfold toWire
  rw [List.append_assoc]
  exact (Header.reads_address e.addr).bind hfields

end TimingEntry

namespace TimingReport

-- All entries carry the same optional fields.
def Alike (t : TimingReport) : Prop :=
  ∀ e ∈ t.entries, ∀ other ∈ t.entries, e.rxTime.isSome = other.rxTime.isSome ∧ e.rxInfo.isSome = other.rxInfo.isSome

-- It is enough to compare all entries with the first one.
theorem isUniform_iff (t : TimingReport) : t.isUniform = true ↔ t.Alike := by
  unfold isUniform Alike hasTimes hasInfos
  cases t.entries with
  | nil => simp
  | cons first rest =>
    simp only [List.head?_cons, Option.any_some, List.all_eq_true, Bool.and_eq_true, beq_iff_eq]
    constructor
    · intro h e he other hother
      obtain ⟨htime, hinfo⟩ := h e he
      obtain ⟨htime', hinfo'⟩ := h other hother
      exact ⟨htime.trans htime'.symm, hinfo.trans hinfo'.symm⟩
    · exact fun h e he => h e he first List.mem_cons_self

-- The first entry speaks for all of them.
theorem Alike.fields {t : TimingReport} (halike : t.Alike) {e : TimingEntry} (he : e ∈ t.entries) :
    e.rxTime.isSome = t.hasTimes ∧ e.rxInfo.isSome = t.hasInfos := by
  unfold hasTimes hasInfos
  cases hentries : t.entries with
  | nil => simp [hentries] at he
  | cons first rest => exact halike e he first (by simp [hentries])

-- The times have 40 bits, the entries can be counted, and all of them carry the same optional
-- fields, at least one.
structure WellFormed (t : TimingReport) : Prop where
  txTime : ∀ time, t.txTime = some time → time.toNat < 2 ^ 40
  count : t.entries.length ≤ 255
  times : ∀ e ∈ t.entries, ∀ time, e.rxTime = some time → time.toNat < 2 ^ 40
  fields : ∃ withTime withInfo, (withTime || withInfo) = true ∧
    ∀ e ∈ t.entries, e.rxTime.isSome = withTime ∧ e.rxInfo.isSome = withInfo

theorem subtype_fields (t : TimingReport) :
    Bits.test t.subtype.toUInt32 3 = t.timing ∧ Bits.test t.subtype.toUInt32 2 = t.txTime.isSome ∧
      Bits.test t.subtype.toUInt32 1 = t.hasTimes ∧ Bits.test t.subtype.toUInt32 0 = t.hasInfos := by
  unfold subtype
  cases t.timing <;> cases t.txTime.isSome <;> cases t.hasTimes <;> cases t.hasInfos <;> decide

theorem WellFormed.alike {t : TimingReport} (hw : t.WellFormed) : t.Alike := by
  obtain ⟨withTime, withInfo, -, hall⟩ := hw.fields
  intro e he other hother
  obtain ⟨htime, hinfo⟩ := hall e he
  obtain ⟨htime', hinfo'⟩ := hall other hother
  exact ⟨htime.trans htime'.symm, hinfo.trans hinfo'.symm⟩

theorem hasFields_of_mem (t : TimingReport) (hw : t.WellFormed) {e : TimingEntry} (he : e ∈ t.entries) :
    (t.hasTimes || t.hasInfos) = true := by
  obtain ⟨withTime, withInfo, hsome, hall⟩ := hw.fields
  obtain ⟨htimes, hinfos⟩ := hw.alike.fields he
  rw [← htimes, ← hinfos, (hall e he).1, (hall e he).2]
  exact hsome

theorem reads_entries (t : TimingReport) (hw : t.WellFormed) :
    ReadsBack (readEntries t.hasTimes t.hasInfos) t.encodeEntries t.entries := by
  by_cases hnil : t.entries = []
  · have htimes : t.hasTimes = false := by simp [hasTimes, hnil]
    have hinfos : t.hasInfos = false := by simp [hasInfos, hnil]
    unfold encodeEntries readEntries
    rw [htimes, hinfos, hnil]
    exact ⟨[], rfl, Reads.pure []⟩
  · obtain ⟨first, hfirst⟩ := List.exists_mem_of_ne_nil t.entries hnil
    have hsome := t.hasFields_of_mem hw hfirst
    unfold encodeEntries readEntries
    rw [if_pos hsome, if_pos hsome, checkPeers_eq_ok hw.count]
    refine ⟨_, rfl, reads_masked hw.count ?_⟩
    intro e he
    obtain ⟨htimes, hinfos⟩ := hw.alike.fields he
    rw [← htimes, ← hinfos]
    exact e.reads_toWire (hw.times e he)

theorem reads_encodeBody (t : TimingReport) (hw : t.WellFormed) :
    ReadsBack (readBody t.subtype) t.encodeBody t := by
  obtain ⟨entries, hentries, hread⟩ := t.reads_entries hw
  obtain ⟨htiming, htx, htimes, hinfos⟩ := t.subtype_fields
  refine ⟨t.txTime.elim [] Wire.u40 ++ entries, ?_, ?_⟩
  · rw [encodeBody, if_pos (t.isUniform_iff.mpr hw.alike), hentries]
    rfl
  · unfold readBody
    simp only [htiming, htx, htimes, hinfos]
    have htime : Reads (Reader.when t.txTime.isSome Reader.u40) (t.txTime.elim [] Wire.u40) t.txTime :=
      Reads.when fun time ht => Reads.u40 (hw.txTime time ht)
    exact htime.map₂ hread (TimingReport.mk t.timing)

end TimingReport

end UwbRanging
