import UwbRanging.Message.Form
import UwbRanging.Proofs.Frame.AddressText
import UwbRanging.Proofs.Json.Lawful

namespace UwbRanging

instance : LawfulJson Eui64 where
  ofJson?_toJson e := by
    change (Eui64.parse e.text).toOption = some e
    rw [e.parse_text]
    rfl
  exact_toJson e := .text _
  ne_null := nofun

instance : LawfulJson DeviceAttr where
  ofJson?_toJson a := by cases a <;> rfl
  exact_toJson a := .text _
  ne_null := nofun

instance : LawfulJson AttrValue where
  ofJson?_toJson v := by
    cases v with
    | int n =>
      change (ofJson? (toJson n)).map AttrValue.int = _
      rw [ofJson?_toJson, Option.map_some]
    | text s => rfl
  exact_toJson v := by
    cases v with
    | int n => exact exact_toJson n
    | text s => exact .text s
  ne_null v := by cases v <;> nofun

instance : LawfulJson Diagnostics where
  ofJson?_toJson i := by
    have hfields : (toJson i).fields? Diagnostics.fieldNames = some (i.values.map some) :=
      Json.fields?_zip (by decide) rfl
    have hvalues : (i.values.map some).mapM id = some i.values := by
      rw [List.mapM_map]
      exact List.mapM_pure.trans (congrArg some (List.map_id _))
    change ((toJson i).fields? Diagnostics.fieldNames).bind _ = _
    rw [hfields, Option.bind_some, hvalues]
    change Diagnostics.ofValues? i.values = some i
    -- field by field from the first one on
    iterate 16 refine Option.bind_eq_some_iff.mpr ⟨_, ofJson?_toJson _, ?_⟩
    rfl
  exact_toJson i := by
    refine Json.exact_object fun m hm => ?_
    have hvalue := (List.of_mem_zip hm).2
    simp only [Diagnostics.values, List.mem_cons, List.not_mem_nil, or_false] at hvalue
    rcases hvalue with h | h | h | h | h | h | h | h | h | h | h | h | h | h | h | h <;> exact h ▸ .int _
  ne_null := nofun

namespace Json

variable {α : Type} [ToJson α] [OfJson α] [LawfulJson α]

@[simp] theorem present?_toJson (a : α) : present? (some (toJson a)) = some a := ofJson?_toJson a

theorem exact_memberIf {name : String} {a : Option α} {m : String × Json} (hm : m ∈ memberIf name a) : m.2.Exact := by
  cases a with
  | none => cases hm
  | some a =>
    cases List.mem_singleton.mp hm
    exact exact_toJson a

end Json

instance : LawfulJson RpcArgs where
  ofJson?_toJson a := by
    have hfields : (toJson a).fields? ["Attr", "Value"] = some [a.attr.map toJson, a.value.map toJson] := by
      refine (Json.fields?_object ?_ _).trans ?_
      · cases a.attr <;> cases a.value <;> simp [Json.memberIf]
      · cases a.attr <;> cases a.value <;> rfl
    change ((toJson a).fields? ["Attr", "Value"]).bind _ = _
    rw [hfields]
    simp [Json.optional?_map_toJson]
  exact_toJson a := by
    refine Json.exact_object fun m hm => ?_
    rcases List.mem_append.mp hm with hm | hm
    · exact Json.exact_memberIf hm
    · exact Json.exact_memberIf hm
  ne_null := nofun

section Records

-- A record is read from an object that holds another member besides, the type of the message.
variable (type : Json)

theorem BeaconRequest.ofJson?_members (r : BeaconRequest) :
    (ofJson? (Json.object (("Type", type) :: r.members)) : Option BeaconRequest) = some r := by
  have hnodup : ((("Type", type) :: r.members).map Prod.fst).Nodup := by simp [members]
  change Option.bind _ _ = _
  rw [Json.fields?_object hnodup]
  simp [members, List.lookup_cons]

theorem RpcCall.ofJson?_members (c : RpcCall) :
    (ofJson? (Json.object (("Type", type) :: c.members)) : Option RpcCall) = some c := by
  have hnodup : ((("Type", type) :: c.members).map Prod.fst).Nodup := by simp [members]
  change Option.bind _ _ = _
  rw [Json.fields?_object hnodup]
  simp [members, List.lookup_cons, ofJson?_toJson]

theorem TimestampReport.times?_times (r : TimestampReport) : times? r.times = some (r.swts, r.hwts, r.hires) := by
  have hhires : (toJson r.hires.toNat).nat? (UInt64.size * UInt64.size) = some r.hires.toNat :=
    Json.nat?_toJson r.hires.isLt
  have hfields : r.times.fields? ["swts", "hwts", "hires"] =
      some [some (toJson r.swts), some (toJson r.hwts), some (toJson r.hires.toNat)] :=
    Json.fields?_object (by simp) _
  rw [times?, hfields]
  simp [hhires]

theorem TimestampReport.ofJson?_members (r : TimestampReport) :
    (ofJson? (Json.object (("Type", type) :: r.members)) : Option TimestampReport) = some r := by
  have hnodup : ((("Type", type) :: r.members).map Prod.fst).Nodup := by simp [members]
  change Option.bind _ _ = _
  rw [Json.fields?_object hnodup]
  simp [members, List.lookup_cons, TimestampReport.times?_times]

end Records

section Exactness

variable {m : String × Json}

theorem BeaconRequest.exact_members {r : BeaconRequest} (hm : m ∈ r.members) : m.2.Exact := by
  simp only [members, List.mem_cons, List.not_mem_nil, or_false] at hm
  rcases hm with rfl | rfl
  · exact exact_toJson r.beacon
  · exact exact_toJson r.subtype

theorem RpcCall.exact_members {c : RpcCall} (hm : m ∈ c.members) : m.2.Exact := by
  simp only [members, List.mem_cons, List.not_mem_nil, or_false] at hm
  rcases hm with rfl | rfl | rfl
  · exact exact_toJson c.func
  · exact exact_toJson c.seqn
  · exact exact_toJson c.args

theorem TimestampReport.exact_times (r : TimestampReport) : r.times.Exact := by
  refine Json.exact_object fun m hm => ?_
  simp only [List.mem_cons, List.not_mem_nil, or_false] at hm
  rcases hm with rfl | rfl | rfl <;> exact .int _

theorem TimestampReport.exact_members {r : TimestampReport} (hm : m ∈ r.members) : m.2.Exact := by
  simp only [members, List.mem_cons, List.not_mem_nil, or_false] at hm
  rcases hm with rfl | rfl | rfl | rfl | rfl
  · exact exact_toJson r.anchor
  · exact Json.exact_toJson_option r.src
  · exact r.exact_times
  · exact exact_toJson r.info
  · exact exact_toJson r.frame

end Exactness

namespace Message

theorem exact_toJson (m : Message) : (toJson m).Exact := by
  refine Json.exact_object fun member hmember => ?_
  rcases List.mem_cons.mp hmember with rfl | hmember
  · exact .text m.type
  · cases m with
    | beacon r => exact BeaconRequest.exact_members hmember
    | rpc c => exact RpcCall.exact_members hmember
    | tx r => exact TimestampReport.exact_members hmember
    | rx r => exact TimestampReport.exact_members hmember

theorem nodup_members (m : Message) : ((("Type", toJson m.type) :: m.members).map Prod.fst).Nodup := by
  cases m with
  | beacon r => simp [members, BeaconRequest.members]
  | rpc c => simp [members, RpcCall.members]
  | tx r => simp [members, TimestampReport.members]
  | rx r => simp [members, TimestampReport.members]

theorem type?_toJson (m : Message) : type? (toJson m) = some m.type := by
  change Option.bind ((Json.object (("Type", toJson m.type) :: m.members)).fields? ["Type"]) _ = _
  rw [Json.fields?_object m.nodup_members]
  simp [List.lookup_cons]

-- A message is read by the rules of the type that it was written with.
theorem ofJson_toJson (m : Message) : ofJson (toJson m) = .ok m := by
  have htype := m.type?_toJson
  unfold ofJson
  rw [htype]
  cases m with
  | beacon r =>
    have hbody : ofJson? (toJson (beacon r)) = some r := r.ofJson?_members _
    simp [type, hbody]
  | rpc c =>
    have hbody : ofJson? (toJson (rpc c)) = some c := c.ofJson?_members _
    simp [type, hbody]
  | tx r =>
    have hbody : ofJson? (toJson (tx r)) = some r := r.ofJson?_members _
    simp [type, hbody]
  | rx r =>
    have hbody : ofJson? (toJson (rx r)) = some r := r.ofJson?_members _
    simp [type, hbody]

theorem parse_encode (m : Message) : Json.parse (Text.encodeUtf8 m.encode) = some (toJson m) :=
  Json.parse_render m.exact_toJson

-- Every message is read back from the datagram that carries it.
theorem decode_encode (m : Message) : decode (Text.encodeUtf8 m.encode) = .ok m := by
  rw [decode, m.parse_encode]
  exact m.ofJson_toJson

theorem valuesOf_type (m : Message) :
    Json.valuesOf "Type" ((("Type", toJson m.type) :: m.members).map fun m => (some m.1, m.2)) = [.text m.type] := by
  obtain ⟨hfirst, -⟩ := List.nodup_cons.mp m.nodup_members
  rw [Json.valuesOf_cons, if_pos rfl, Json.valuesOf_eq_nil hfirst, List.append_nil]
  rfl

-- Every message is read back from its datagram, which is an object that names one type only, so that a datagram
-- of one type never passes for a message of another.
theorem datagram_round_trip (m : Message) :
    decode (Text.encodeUtf8 m.encode) = .ok m ∧
    (∃ members, Json.parse (Text.encodeUtf8 m.encode) = some (.obj members) ∧
      Json.valuesOf "Type" members = [.text m.type]) ∧
    ∀ other, other.type ≠ m.type → decode (Text.encodeUtf8 m.encode) ≠ .ok other := by
  refine ⟨m.decode_encode, ⟨_, m.parse_encode, m.valuesOf_type⟩, fun other htype hother => ?_⟩
  rw [m.decode_encode] at hother
  exact htype (congrArg type (Except.ok.inj hother).symm)

end Message

end UwbRanging
