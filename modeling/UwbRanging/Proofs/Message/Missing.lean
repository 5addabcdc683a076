import Mathlib.Data.List.Basic
import UwbRanging.Message.Form

namespace UwbRanging

namespace Json

-- An object without one of these members.
def Lacks (names : List String) : Json → Prop
  | obj members => ∃ name ∈ names, valuesOf name members = []
  | _ => False

-- An object with this member.
def Holds (name : String) (j part : Json) : Prop :=
  match j with
  | obj members => part ∈ valuesOf name members
  | _ => False

variable {j part : Json} {name : String} {names all : List String} {fields : List (Option Json)}

theorem exists_of_mapM {α β : Type} {f : α → Option β} {l : List α} {l' : List β} (h : l.mapM f = some l')
    {i : Nat} {a : α} (ha : l[i]? = some a) : ∃ b, f a = some b ∧ l'[i]? = some b := by
  induction l generalizing l' i with
  | nil => simp at ha
  | cons first rest ih =>
    rw [List.mapM_cons] at h
    obtain ⟨b, hb, h⟩ := Option.bind_eq_some_iff.mp h
    obtain ⟨bs, hbs, h⟩ := Option.bind_eq_some_iff.mp h
    cases h
    cases i with
    | zero =>
      obtain rfl : first = a := by simpa using ha
      exact ⟨b, hb, rfl⟩
    | succ i => exact ih hbs ha

theorem exists_of_fields? {members : List (Option String × Json)} (h : (obj members).fields? all = some fields)
    {i : Nat} (hname : all[i]? = some name) :
    ∃ field, valueOf? name members = some field ∧ fields[i]? = some field := by
  simp only [fields?] at h
  split at h
  · exact exists_of_mapM h hname
  · cases h

-- A member that is missing shows as a missing field.
theorem Lacks.exists_none (h : j.Lacks names) (hnames : ∀ name ∈ names, name ∈ all)
    (hfields : j.fields? all = some fields) : ∃ name ∈ names, (name, none) ∈ all.zip fields := by
  cases j with
  | obj members =>
    obtain ⟨name, hname, hmissing⟩ := h
    obtain ⟨i, hi⟩ := List.mem_iff_getElem?.mp (hnames name hname)
    obtain ⟨field, hvalue, hfield⟩ := exists_of_fields? hfields hi
    rw [valueOf?, hmissing] at hvalue
    cases hvalue
    exact ⟨name, hname, List.mem_iff_getElem?.mpr ⟨i, List.getElem?_zip_eq_some.mpr ⟨hi, hfield⟩⟩⟩
  | _ => cases h

-- What needs a member that is missing is not read.
theorem Lacks.not_read {α : Type} {value : Option α} (h : j.Lacks names) (all : List String)
    (hnames : ∀ name ∈ names, name ∈ all) (hread : ∀ a, value = some a →
      ∃ fields, j.fields? all = some fields ∧ ∀ name ∈ names, (name, none) ∉ all.zip fields) : value = none := by
  cases hvalue : value with
  | none => rfl
  | some a =>
    obtain ⟨fields, hfields, hpresent⟩ := hread a hvalue
    obtain ⟨name, hname, hnone⟩ := h.exists_none hnames hfields
    exact (hpresent name hname hnone).elim

theorem Holds.getElem?_eq (h : j.Holds name part) (hfields : j.fields? all = some fields) {i : Nat}
    (hi : all[i]? = some name) : fields[i]? = some (some part) := by
  cases j with
  | obj members =>
    obtain ⟨field, hvalue, hfield⟩ := exists_of_fields? hfields hi
    change part ∈ valuesOf name members at h
    rw [valueOf?] at hvalue
    split at hvalue
    case h_1 hnone => rw [hnone] at h; cases h
    case h_2 value hone =>
      rw [hone] at h
      rw [hfield, ← Option.some.inj hvalue, List.mem_singleton.mp h]
    case h_3 => cases hvalue
  | _ => cases h

theorem exists_of_present? {α : Type} [OfJson α] {field : Option Json} {a : α} (h : present? field = some a) :
    ∃ part, field = some part ∧ ofJson? part = some a := Option.bind_eq_some_iff.mp h

end Json

theorem RpcCall.exists_fields {j : Json} {c : RpcCall} (h : ofJson? j = some c) :
    ∃ func seqn args, j.fields? ["Func", "Seqn", "Args"] = some [some func, some seqn, args] := by
  obtain ⟨fields, hfields, h⟩ := Option.bind_eq_some_iff.mp h
  split at h
  · obtain ⟨func', hfunc, h⟩ := Option.bind_eq_some_iff.mp h
    obtain ⟨seqn', hseqn, -⟩ := Option.bind_eq_some_iff.mp h
    obtain ⟨func, rfl, -⟩ := Json.exists_of_present? hfunc
    obtain ⟨seqn, rfl, -⟩ := Json.exists_of_present? hseqn
    exact ⟨func, seqn, _, hfields⟩
  · cases h

theorem RpcCall.ofJson?_eq_none {j : Json} (h : j.Lacks ["Func", "Seqn"]) : (ofJson? j : Option RpcCall) = none := by
  refine h.not_read ["Func", "Seqn", "Args"] (by simp) fun c hread => ?_
  obtain ⟨func, seqn, args, hfields⟩ := c.exists_fields hread
  exact ⟨_, hfields, by simp⟩

theorem BeaconRequest.exists_fields {j : Json} {r : BeaconRequest} (h : ofJson? j = some r) :
    ∃ beacon subtype, j.fields? ["Beacon", "SubType"] = some [some beacon, some subtype] := by
  obtain ⟨fields, hfields, h⟩ := Option.bind_eq_some_iff.mp h
  split at h
  · obtain ⟨beacon', hbeacon, h⟩ := Option.bind_eq_some_iff.mp h
    obtain ⟨subtype', hsubtype, -⟩ := Option.bind_eq_some_iff.mp h
    obtain ⟨beacon, rfl, -⟩ := Json.exists_of_present? hbeacon
    obtain ⟨subtype, rfl, -⟩ := Json.exists_of_present? hsubtype
    exact ⟨beacon, subtype, hfields⟩
  · cases h

theorem BeaconRequest.ofJson?_eq_none {j : Json} (h : j.Lacks ["Beacon", "SubType"]) :
    (ofJson? j : Option BeaconRequest) = none := by
  refine h.not_read ["Beacon", "SubType"] (by simp) fun r hread => ?_
  obtain ⟨beacon, subtype, hfields⟩ := r.exists_fields hread
  exact ⟨_, hfields, by simp⟩

theorem TimestampReport.exists_times {j : Json} {times : UInt64 × UInt64 × BitVec 128} (h : times? j = some times) :
    ∃ swts hwts hires, j.fields? ["swts", "hwts", "hires"] = some [some swts, some hwts, some hires] := by
  obtain ⟨fields, hfields, h⟩ := Option.bind_eq_some_iff.mp h
  split at h
  · obtain ⟨swts', hswts, h⟩ := Option.bind_eq_some_iff.mp h
    obtain ⟨hwts', hhwts, h⟩ := Option.bind_eq_some_iff.mp h
    obtain ⟨hires', hhires, -⟩ := Option.bind_eq_some_iff.mp h
    obtain ⟨swts, rfl, -⟩ := Json.exists_of_present? hswts
    obtain ⟨hwts, rfl, -⟩ := Json.exists_of_present? hhwts
    obtain ⟨hires, rfl, -⟩ := Option.bind_eq_some_iff.mp hhires
    exact ⟨swts, hwts, hires, hfields⟩
  · cases h

theorem TimestampReport.times?_eq_none {j : Json} (h : j.Lacks ["swts", "hwts", "hires"]) : times? j = none := by
  refine h.not_read ["swts", "hwts", "hires"] (by simp) fun times hread => ?_
  obtain ⟨swts, hwts, hires, hfields⟩ := TimestampReport.exists_times hread
  exact ⟨_, hfields, by simp⟩

theorem Diagnostics.exists_fields {j : Json} {info : Diagnostics} (h : ofJson? j = some info) :
    ∃ fields, j.fields? fieldNames = some fields ∧ none ∉ fields := by
  obtain ⟨fields, hfields, h⟩ := Option.bind_eq_some_iff.mp h
  obtain ⟨values, hvalues, -⟩ := Option.bind_eq_some_iff.mp h
  refine ⟨fields, hfields, fun hnone => ?_⟩
  obtain ⟨i, hi⟩ := List.mem_iff_getElem?.mp hnone
  obtain ⟨value, hvalue, -⟩ := Json.exists_of_mapM hvalues hi
  cases hvalue

theorem Diagnostics.ofJson?_eq_none {j : Json} (h : j.Lacks fieldNames) : (ofJson? j : Option Diagnostics) = none := by
  refine h.not_read fieldNames (fun _ => id) fun info hread => ?_
  obtain ⟨fields, hfields, hpresent⟩ := info.exists_fields hread
  exact ⟨fields, hfields, fun name _ hnone => hpresent (List.of_mem_zip hnone).2⟩

theorem TimestampReport.exists_fields {j : Json} {r : TimestampReport} (h : ofJson? j = some r) :
    ∃ anchor src times info frame,
      j.fields? ["Anchor", "Src", "Times", "TSInfo", "Frame"] =
        some [some anchor, src, some times, some info, some frame] ∧
      (times? times).isSome ∧ (ofJson? info : Option Diagnostics).isSome := by
  obtain ⟨fields, hfields, h⟩ := Option.bind_eq_some_iff.mp h
  split at h
  · obtain ⟨clocks, htimes, h⟩ := Option.bind_eq_some_iff.mp h
    obtain ⟨anchor', hanchor, h⟩ := Option.bind_eq_some_iff.mp h
    obtain ⟨src', -, h⟩ := Option.bind_eq_some_iff.mp h
    obtain ⟨info', hinfo, h⟩ := Option.bind_eq_some_iff.mp h
    obtain ⟨frame', hframe, -⟩ := Option.bind_eq_some_iff.mp h
    obtain ⟨times, rfl, htimes⟩ := Option.bind_eq_some_iff.mp htimes
    obtain ⟨anchor, rfl, -⟩ := Json.exists_of_present? hanchor
    obtain ⟨info, rfl, hinfo⟩ := Json.exists_of_present? hinfo
    obtain ⟨frame, rfl, -⟩ := Json.exists_of_present? hframe
    exact ⟨anchor, _, times, info, frame, hfields, Option.isSome_of_mem htimes, Option.isSome_of_mem hinfo⟩
  · cases h

theorem TimestampReport.ofJson?_eq_none {j : Json} (h : j.Lacks ["Anchor", "Times", "TSInfo", "Frame"]) :
    (ofJson? j : Option TimestampReport) = none := by
  refine h.not_read ["Anchor", "Src", "Times", "TSInfo", "Frame"] (by simp) fun r hread => ?_
  obtain ⟨anchor, src, times, info, frame, hfields, -⟩ := r.exists_fields hread
  exact ⟨_, hfields, by simp⟩

theorem TimestampReport.ofJson?_eq_none_of_times {j part : Json} (hpart : j.Holds "Times" part)
    (h : part.Lacks ["swts", "hwts", "hires"]) : (ofJson? j : Option TimestampReport) = none := by
  cases hread : (ofJson? j : Option TimestampReport) with
  | none => rfl
  | some r =>
    obtain ⟨anchor, src, times, info, frame, hfields, htimes, -⟩ := r.exists_fields hread
    obtain rfl : times = part := by simpa using hpart.getElem?_eq hfields (i := 2) rfl
    rw [TimestampReport.times?_eq_none h] at htimes
    cases htimes

theorem TimestampReport.ofJson?_eq_none_of_info {j part : Json} (hpart : j.Holds "TSInfo" part)
    (h : part.Lacks Diagnostics.fieldNames) : (ofJson? j : Option TimestampReport) = none := by
  cases hread : (ofJson? j : Option TimestampReport) with
  | none => rfl
  | some r =>
    obtain ⟨anchor, src, times, info, frame, hfields, -, hinfo⟩ := r.exists_fields hread
    obtain rfl : info = part := by simpa using hpart.getElem?_eq hfields (i := 3) rfl
    rw [Diagnostics.ofJson?_eq_none h] at hinfo
    cases hinfo

namespace Message

-- Something is missing that a message of its type cannot do without, in itself, in the clocks or in the
-- diagnostics of a report.
inductive Incomplete (j : Json) : Prop where
  | type (h : j.Lacks ["Type"])
  | request (htype : type? j = some "BEACON") (h : j.Lacks ["Beacon", "SubType"])
  | reply (htype : type? j = some "RPC") (h : j.Lacks ["Func", "Seqn"])
  | report (htype : type? j = some "TX" ∨ type? j = some "RX") (h : j.Lacks ["Anchor", "Times", "TSInfo", "Frame"])
  | times (htype : type? j = some "TX" ∨ type? j = some "RX") (part : Json) (hpart : j.Holds "Times" part)
      (h : part.Lacks ["swts", "hwts", "hires"])
  | info (htype : type? j = some "TX" ∨ type? j = some "RX") (part : Json) (hpart : j.Holds "TSInfo" part)
      (h : part.Lacks Diagnostics.fieldNames)

variable {j : Json}

theorem exists_type {type : String} (h : type? j = some type) : ∃ part, j.fields? ["Type"] = some [some part] := by
  obtain ⟨fields, hfields, h⟩ := Option.bind_eq_some_iff.mp h
  split at h
  · obtain ⟨part, rfl, -⟩ := Json.exists_of_present? h
    exact ⟨part, hfields⟩
  · cases h

theorem type?_eq_none (h : j.Lacks ["Type"]) : type? j = none := by
  refine h.not_read ["Type"] (by simp) fun type hread => ?_
  obtain ⟨part, hfields⟩ := exists_type hread
  exact ⟨_, hfields, by simp⟩

theorem ofJson_of_no_report (htype : type? j = some "TX" ∨ type? j = some "RX")
    (h : (ofJson? j : Option TimestampReport) = none) : ofJson j = .error .malformed := by
  rcases htype with htype | htype <;> simp [ofJson, htype, h]

theorem Incomplete.ofJson_eq (h : Incomplete j) : ofJson j = .error .malformed := by
  cases h with
  | type h => simp [ofJson, type?_eq_none h]
  | request htype h => simp [ofJson, htype, BeaconRequest.ofJson?_eq_none h]
  | reply htype h => simp [ofJson, htype, RpcCall.ofJson?_eq_none h]
  | report htype h => exact ofJson_of_no_report htype (TimestampReport.ofJson?_eq_none h)
  | times htype part hpart h => exact ofJson_of_no_report htype (TimestampReport.ofJson?_eq_none_of_times hpart h)
  | info htype part hpart h => exact ofJson_of_no_report htype (TimestampReport.ofJson?_eq_none_of_info hpart h)

-- A message of another type than the four is refused by that type.
theorem ofJson_of_unknown {type : String} (htype : type? j = some type) (h : type ∉ ["BEACON", "RPC", "TX", "RX"]) :
    ofJson j = .error (.badReply (.unknownType type)) := by
  simp only [List.mem_cons, List.not_mem_nil, or_false, not_or] at h
  obtain ⟨hbeacon, hrpc, htx, hrx⟩ := h
  unfold ofJson
  rw [htype]
  split <;> simp_all

end Message

end UwbRanging
