import UwbRanging.Proofs.Frame.Accepts

namespace UwbRanging

-- What the air carries of a radio time: its low 40 bits.
def airTime (time : UInt64) : UInt64 := time % 0x10000000000

theorem toNat_airTime (time : UInt64) : (airTime time).toNat = time.toNat % 2 ^ 40 := UInt64.toNat_mod time _

theorem airTime_lt (time : UInt64) : (airTime time).toNat < 2 ^ 40 := by
  rw [toNat_airTime]
  exact Nat.mod_lt _ (by decide)

theorem Wire.u40_airTime (time : UInt64) : Wire.u40 (airTime time) = Wire.u40 time := by
  rw [Wire.u40, toNat_airTime]
  exact LittleEndian.encode_mod 5 time.toNat

theorem elim_u40_airTime (field : Option UInt64) : (field.map airTime).elim [] Wire.u40 = field.elim [] Wire.u40 := by
  cases field with
  | none => rfl
  | some time => exact Wire.u40_airTime time

theorem lt_of_map_airTime {field : Option UInt64} {time : UInt64} (h : field.map airTime = some time) :
    time.toNat < 2 ^ 40 := by
  obtain ⟨whole, -, rfl⟩ := Option.map_eq_some_iff.mp h
  exact airTime_lt whole

namespace TimingEntry

variable (e : TimingEntry)

-- An entry that says of a peer only that there is one.
def isBare : Bool := e.rxTime.isNone && e.rxInfo.isNone

-- The entry as it is received.
def heard : TimingEntry := { e with rxTime := e.rxTime.map airTime }

theorem toWire_heard : e.heard.toWire = e.toWire := by
  rw [toWire, toWire, heard, elim_u40_airTime]

theorem isBare_eq : e.isBare = !(e.rxTime.isSome || e.rxInfo.isSome) := by
  unfold isBare
  cases e.rxTime <;> cases e.rxInfo <;> rfl

end TimingEntry

namespace TimingReport

variable {t : TimingReport}

-- A list is announced if it has an entry that is not bare, and then none is.
theorem Alike.announced (halike : t.Alike) {e : TimingEntry} (he : e ∈ t.entries) :
    (t.hasTimes || t.hasInfos) = !e.isBare := by
  obtain ⟨htime, hinfo⟩ := halike.fields he
  rw [e.isBare_eq, htime, hinfo, Bool.not_not]

variable (t)

-- The report with its times as they are received.
def shortened : TimingReport := ⟨t.timing, t.txTime.map airTime, t.entries.map TimingEntry.heard⟩

-- The report as it is received. The air has no place for bare entries.
def heard : TimingReport :=
  if t.entries.any TimingEntry.isBare then { t.shortened with entries := [] } else t.shortened

theorem timing_heard : t.heard.timing = t.timing := by
  unfold heard
  split <;> rfl

theorem txTime_heard : t.heard.txTime = t.txTime.map airTime := by
  unfold heard
  split <;> rfl

theorem hasTimes_shortened : t.shortened.hasTimes = t.hasTimes := by
  unfold hasTimes shortened TimingEntry.heard
  cases t.entries with
  | nil => rfl
  | cons first rest => simp

theorem hasInfos_shortened : t.shortened.hasInfos = t.hasInfos := by
  unfold hasInfos shortened TimingEntry.heard
  cases t.entries with
  | nil => rfl
  | cons first rest => simp

theorem subtype_shortened : t.shortened.subtype = t.subtype := by
  have htime : t.shortened.txTime.isSome = t.txTime.isSome := Option.isSome_map
  rw [subtype, subtype, htime, t.hasTimes_shortened, t.hasInfos_shortened]
  rfl

theorem isUniform_shortened : t.shortened.isUniform = t.isUniform := by
  unfold isUniform
  rw [t.hasTimes_shortened, t.hasInfos_shortened, shortened, List.all_map]
  congr 1
  funext e
  simp [TimingEntry.heard]

theorem encodeEntries_shortened : t.shortened.encodeEntries = t.encodeEntries := by
  have hlength : t.shortened.entries.length = t.entries.length := List.length_map _
  have hmask : t.shortened.entries.map (fun e => e.addr.isLong) = t.entries.map fun e => e.addr.isLong := by
    rw [shortened, List.map_map]
    rfl
  have hbytes : t.shortened.entries.flatMap TimingEntry.toWire = t.entries.flatMap TimingEntry.toWire := by
    rw [shortened, List.flatMap_map]
    exact congrArg (t.entries.flatMap ·) (funext TimingEntry.toWire_heard)
  rw [encodeEntries, encodeEntries, t.hasTimes_shortened, t.hasInfos_shortened, hlength, hmask, hbytes]

theorem encodeBody_shortened : t.shortened.encodeBody = t.encodeBody := by
  have htime : t.shortened.txTime.elim [] Wire.u40 = t.txTime.elim [] Wire.u40 := elim_u40_airTime t.txTime
  rw [encodeBody, encodeBody, t.isUniform_shortened, t.encodeEntries_shortened, htime]

variable {t}

-- Without a field to announce, the entries leave no trace in what is written.
theorem subtype_unannounced (hnone : (t.hasTimes || t.hasInfos) = false) :
    ({ t with entries := [] } : TimingReport).subtype = t.subtype := by
  obtain ⟨htimes, hinfos⟩ := Bool.or_eq_false_iff.mp hnone
  rw [subtype, subtype, htimes, hinfos]
  rfl

theorem encodeBody_unannounced (hnone : (t.hasTimes || t.hasInfos) = false) (halike : t.Alike) :
    ({ t with entries := [] } : TimingReport).encodeBody = t.encodeBody := by
  have hentries : t.encodeEntries = .ok [] := by rw [encodeEntries, hnone]; rfl
  rw [encodeBody_of_nil rfl, encodeBody, if_pos (t.isUniform_iff.mpr halike), hentries]
  exact congrArg Except.ok (List.append_nil _).symm

-- A report that can be written goes on the air like the one that is received.
theorem encodeBody_heard (halike : t.Alike) : t.heard.subtype = t.subtype ∧ t.heard.encodeBody = t.encodeBody := by
  unfold heard
  split
  · rename_i hbare
    obtain ⟨e, he, hbare⟩ := List.any_eq_true.mp hbare
    have hnone : (t.shortened.hasTimes || t.shortened.hasInfos) = false := by
      rw [t.hasTimes_shortened, t.hasInfos_shortened, halike.announced he, hbare]
      rfl
    have halike' : t.shortened.Alike := by
      rw [← isUniform_iff, t.isUniform_shortened, isUniform_iff]
      exact halike
    exact ⟨(subtype_unannounced hnone).trans t.subtype_shortened,
      (encodeBody_unannounced hnone halike').trans t.encodeBody_shortened⟩
  · exact ⟨t.subtype_shortened, t.encodeBody_shortened⟩

theorem heard_of_bare {e : TimingEntry} (he : e ∈ t.entries) (hbare : e.isBare = true) :
    t.heard = { t.shortened with entries := [] } := if_pos (List.any_eq_true.mpr ⟨e, he, hbare⟩)

theorem heard_of_full (hfull : ∀ e ∈ t.entries, e.isBare = false) : t.heard = t.shortened := by
  refine if_neg fun hany => ?_
  obtain ⟨e, he, hbare⟩ := List.any_eq_true.mp hany
  rw [hfull e he] at hbare
  cases hbare

theorem shortened_wellFormed (halike : t.Alike) (hfull : ∀ e ∈ t.entries, e.isBare = false)
    (hcount : t.entries.length ≤ 255) : t.shortened.WellFormed where
  txTime _ htime := lt_of_map_airTime htime
  count := by
    rw [shortened, List.length_map]
    exact hcount
  times e he time htime := by
    obtain ⟨whole, -, rfl⟩ := List.mem_map.mp he
    exact lt_of_map_airTime htime
  fields := by
    by_cases hnil : t.entries = []
    · refine ⟨true, true, rfl, fun e he => ?_⟩
      simp [shortened, hnil] at he
    · obtain ⟨first, hfirst⟩ := List.exists_mem_of_ne_nil t.entries hnil
      refine ⟨t.hasTimes, t.hasInfos, by rw [halike.announced hfirst, hfull first hfirst]; rfl, fun e he => ?_⟩
      obtain ⟨whole, hwhole, rfl⟩ := List.mem_map.mp he
      obtain ⟨htime, hinfo⟩ := halike.fields hwhole
      exact ⟨Option.isSome_map.trans htime, hinfo⟩

-- A list of bare entries may be as long as it likes, since none of them is sent.
theorem heard_wellFormed (halike : t.Alike)
    (hcount : (∀ e ∈ t.entries, e.isBare = false) → t.entries.length ≤ 255) : t.heard.WellFormed := by
  by_cases hbare : ∃ e ∈ t.entries, e.isBare = true
  · obtain ⟨e, he, hbare⟩ := hbare
    rw [heard_of_bare he hbare]
    exact ⟨fun _ htime => lt_of_map_airTime htime, by simp, by simp, true, true, rfl, by simp⟩
  · have hfull : ∀ e ∈ t.entries, e.isBare = false := fun e he =>
      Bool.eq_false_iff.mpr fun h => hbare ⟨e, he, h⟩
    rw [heard_of_full hfull]
    exact shortened_wellFormed halike hfull (hcount hfull)

theorem encodeBody_of_mixed (hmixed : ¬ t.Alike) : t.encodeBody = .error (.unsupported .mixedTimingEntries) :=
  if_neg fun huniform => hmixed (t.isUniform_iff.mp huniform)

theorem encodeBody_of_crowded (halike : t.Alike) (hfull : ∀ e ∈ t.entries, e.isBare = false)
    (hcount : 255 < t.entries.length) : t.encodeBody = .error (.unsupported (.tooManyPeers t.entries.length)) := by
  obtain ⟨first, hfirst⟩ := List.exists_mem_of_length_pos (Nat.lt_trans (by decide) hcount)
  have hannounced : (t.hasTimes || t.hasInfos) = true := by rw [halike.announced hfirst, hfull first hfirst]; rfl
  have hpeers : checkPeers t.entries.length = .error (.unsupported (.tooManyPeers t.entries.length)) := if_pos hcount
  rw [encodeBody, if_pos (t.isUniform_iff.mpr halike), encodeEntries, if_pos hannounced, hpeers]
  rfl

theorem exists_encodeBody (halike : t.Alike)
    (hcount : (∀ e ∈ t.entries, e.isBare = false) → t.entries.length ≤ 255) : ∃ body, t.encodeBody = .ok body := by
  obtain ⟨body, hbody, -⟩ := t.heard.reads_encodeBody (heard_wellFormed halike hcount)
  exact ⟨body, (encodeBody_heard halike).2.symm.trans hbody⟩

-- Nothing else stands in the way of a report.
theorem encodeBody_eq_ok_iff : (∃ body, t.encodeBody = .ok body) ↔
    t.Alike ∧ ((∀ e ∈ t.entries, e.isBare = false) → t.entries.length ≤ 255) := by
  refine ⟨?_, fun ⟨halike, hcount⟩ => exists_encodeBody halike hcount⟩
  rintro ⟨body, hbody⟩
  have halike : t.Alike := by
    by_contra hmixed
    rw [encodeBody_of_mixed hmixed] at hbody
    cases hbody
  refine ⟨halike, fun hfull => Nat.le_of_not_lt fun hcount => ?_⟩
  rw [encodeBody_of_crowded halike hfull hcount] at hbody
  cases hbody

end TimingReport

namespace Payload

variable {t : TimingReport}

theorem encode_timing_eq_ok_iff : (∃ bytes, (timing t).encode = .ok bytes) ↔ ∃ body, t.encodeBody = .ok body := by
  rw [encode]
  cases t.encodeBody with
  | error e =>
    constructor
    · rintro ⟨_, ⟨⟩⟩
    · rintro ⟨_, ⟨⟩⟩
  | ok body => exact ⟨fun _ => ⟨body, rfl⟩, fun _ => ⟨_, rfl⟩⟩

theorem decode_encode_timing {bytes : List UInt8} (hencode : (timing t).encode = .ok bytes) :
    t.Alike ∧ decode bytes = .ok (timing t.heard) := by
  obtain ⟨halike, hcount⟩ := TimingReport.encodeBody_eq_ok_iff.mp (encode_timing_eq_ok_iff.mp ⟨bytes, hencode⟩)
  obtain ⟨hsubtype, hbody⟩ := TimingReport.encodeBody_heard halike
  have hheard : (timing t.heard).encode = (timing t).encode := by rw [encode, encode, hsubtype, hbody]
  obtain ⟨written, hwritten, hdecode⟩ := (timing t.heard).decode_encode (TimingReport.heard_wellFormed halike hcount)
  rw [hheard, hencode] at hwritten
  cases hwritten
  exact ⟨halike, hdecode⟩

-- A report that is written is received with all its peers in their order, unless they are bare: then they
-- are all bare, and all are lost. Whether it can be written is a matter of its fields and its count alone.
theorem timing_entries_kept (t : TimingReport) :
    ((∃ bytes, (timing t).encode = .ok bytes) ↔
      t.Alike ∧ ((∀ e ∈ t.entries, e.isBare = false) → t.entries.length ≤ 255)) ∧
    ∀ bytes, (timing t).encode = .ok bytes →
      ∃ heard, decode bytes = .ok (timing heard) ∧ heard.timing = t.timing ∧ heard.txTime = t.txTime.map airTime ∧
        ((∀ e ∈ t.entries, e.isBare = false) → heard.entries = t.entries.map TimingEntry.heard) ∧
        ((∃ e ∈ t.entries, e.isBare = true) → (∀ e ∈ t.entries, e.isBare = true) ∧ heard.entries = []) ∧
        (heard.entries.map (·.addr) = t.entries.map (·.addr) ↔ ∀ e ∈ t.entries, e.isBare = false) := by
  refine ⟨encode_timing_eq_ok_iff.trans TimingReport.encodeBody_eq_ok_iff, fun bytes hencode => ?_⟩
  obtain ⟨halike, hdecode⟩ := decode_encode_timing hencode
  have hlost : (∃ e ∈ t.entries, e.isBare = true) → t.heard.entries = [] := fun ⟨e, he, hbare⟩ => by
    rw [TimingReport.heard_of_bare he hbare]
  have hkept (hfull : ∀ e ∈ t.entries, e.isBare = false) : t.heard.entries = t.entries.map TimingEntry.heard := by
    rw [TimingReport.heard_of_full hfull]
    rfl
  refine ⟨t.heard, hdecode, t.timing_heard, t.txTime_heard, hkept, fun hbare => ⟨?_, hlost hbare⟩, fun hsame => ?_,
    fun hfull => ?_⟩
  · obtain ⟨e, he, hbare⟩ := hbare
    intro other hother
    rw [← Bool.not_inj_iff, ← halike.announced hother, halike.announced he, hbare]
  · intro e he
    by_contra hbare
    rw [hlost ⟨e, he, eq_true_of_ne_false hbare⟩, List.map_nil, eq_comm, List.map_eq_nil_iff] at hsame
    rw [hsame] at he
    exact List.not_mem_nil he
  · rw [hkept hfull, List.map_map]
    rfl

-- Two peers, one under its long address. The first time has a bit too much, which the air does not carry.
theorem timing_entries_kept_longTime :
    let t : TimingReport := ⟨false, some 3, [⟨.extended ⟨9⟩, some 0x10000000005, none⟩, ⟨.short 7, some 6, none⟩]⟩
    ∃ bytes, (timing t).encode = .ok bytes ∧ (∀ e ∈ t.entries, e.isBare = false) ∧
      ∃ heard, decode bytes = .ok (timing heard) ∧
        heard.entries = [⟨.extended ⟨9⟩, some 5, none⟩, ⟨.short 7, some 6, none⟩] := by
  intro t
  obtain ⟨hwritten, hreceived⟩ := timing_entries_kept t
  have hfull : ∀ e ∈ t.entries, e.isBare = false := by decide
  have halike : t.Alike := TimingReport.isUniform_iff t |>.mp rfl
  obtain ⟨bytes, hbytes⟩ := hwritten.mpr ⟨halike, fun _ => by decide⟩
  obtain ⟨heard, hdecode, -, -, hkept, -⟩ := hreceived bytes hbytes
  exact ⟨bytes, hbytes, hfull, heard, hdecode, (hkept hfull).trans (by decide)⟩

-- A peer of which nothing else is said. The report is written, and its receiver gets no peer at all.
theorem timing_entries_bare :
    (timing ⟨true, none, [⟨.short 1, none, none⟩]⟩).encode = .ok [0x37, 0xf8] ∧
      decode [0x37, 0xf8] = .ok (timing ⟨true, none, []⟩) :=
  ⟨rfl, rfl⟩

end Payload

end UwbRanging
