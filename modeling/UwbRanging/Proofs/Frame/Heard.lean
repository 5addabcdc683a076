import UwbRanging.Proofs.Frame.Refusal

namespace UwbRanging

-- A byte string is written up to where a length byte cuts it.
theorem Wire.counted_take (data : List UInt8) : Wire.counted (data.take 255) = Wire.counted data := by
  simp [Wire.counted, List.take_take, Nat.min_comm]

theorem length_take_counted (data : List UInt8) : (data.take 255).length ≤ 255 := by
  rw [List.length_take]
  exact Nat.min_le_left 255 _

namespace Element

-- The element as it is received.
def heard (e : Element) : Element :=
  match e.value with
  | .int _ => e
  | .bytes data => { e with value := .bytes (data.take 255) }

theorem encode_heard (e : Element) : e.heard.encode = e.encode := by
  obtain ⟨id, value⟩ := e
  cases value with
  | int n => rfl
  | bytes data =>
    unfold heard encode valueBytes
    dsimp only
    cases Width.ofId id <;> simp only [Wire.counted_take]

theorem encodeAll_heard (es : List Element) : encodeAll (es.map heard) = encodeAll es := by
  induction es with
  | nil => rfl
  | cons e rest ih => rw [List.map_cons, encodeAll, encodeAll, e.encode_heard, ih]

theorem Fits.heard_wellFormed {e : Element} (hfits : e.Fits) : e.heard.WellFormed := by
  obtain ⟨id, value⟩ := e
  unfold Fits at hfits
  unfold WellFormed heard
  cases hwidth : Width.ofId id <;> cases value <;> simp only [hwidth] at hfits ⊢
  case u8.int n => exact UInt32.lt_iff_toNat_lt.mp hfits
  case u16.int n => exact UInt32.lt_iff_toNat_lt.mp hfits
  case variable.bytes data => exact length_take_counted data

-- If not all elements fit, one of them is the first that does not.
theorem exists_first_misfit {es : List Element} (h : ¬ ∀ e ∈ es, e.Fits) :
    ∃ front e back, es = front ++ e :: back ∧ (∀ x ∈ front, x.Fits) ∧ ¬ e.Fits := by
  induction es with
  | nil => exact (h (by simp)).elim
  | cons e rest ih =>
    by_cases he : e.Fits
    · obtain ⟨front, bad, back, rfl, hfront, hbad⟩ := ih fun hrest => h (List.forall_mem_cons.mpr ⟨he, hrest⟩)
      exact ⟨e :: front, bad, back, rfl, List.forall_mem_cons.mpr ⟨he, hfront⟩, hbad⟩
    · exact ⟨[], e, rest, rfl, by simp, he⟩

end Element

namespace Blink

def heard (b : Blink) : Blink := { b with elements := b.elements.map (List.map Element.heard) }

theorem encodeBody_heard (b : Blink) : b.heard.subtype = b.subtype ∧ b.heard.encodeBody = b.encodeBody := by
  unfold heard subtype encodeBody
  cases b.elements with
  | none => exact ⟨rfl, rfl⟩
  | some es =>
    refine ⟨rfl, ?_⟩
    simp only [Option.map_some, encodeElements, List.length_map, Element.encodeAll_heard]

theorem heard_wellFormed {b : Blink}
    (hfits : ∀ es, b.elements = some es → es.length ≤ 255 ∧ ∀ e ∈ es, e.Fits) : b.heard.WellFormed := by
  intro es hes
  obtain ⟨whole, hwhole, rfl⟩ := Option.map_eq_some_iff.mp hes
  obtain ⟨hcount, hall⟩ := hfits whole hwhole
  refine ⟨by simpa using hcount, fun e he => ?_⟩
  obtain ⟨x, hx, rfl⟩ := List.mem_map.mp he
  exact (hall x hx).heard_wellFormed

end Blink

namespace RangingResponse

def heard (r : RangingResponse) : RangingResponse :=
  ⟨airTime r.txTime, r.rxTimes.map (List.map fun p => (p.1, airTime p.2))⟩

theorem encodeBody_heard (r : RangingResponse) : r.heard.subtype = r.subtype ∧ r.heard.encodeBody = r.encodeBody := by
  unfold heard subtype isOneWay encodeBody
  cases r.rxTimes with
  | none => exact ⟨rfl, by simp only [Option.map_none, Wire.u40_airTime]⟩
  | some peers =>
    refine ⟨rfl, ?_⟩
    simp only [Option.map_some, encodePeers, List.length_map, List.map_map, List.flatMap_map, Function.comp_def,
      Wire.u40_airTime]

theorem heard_wellFormed {r : RangingResponse} (hcount : ∀ peers, r.rxTimes = some peers → peers.length ≤ 255) :
    r.heard.WellFormed where
  txTime := airTime_lt r.txTime
  peers peers hpeers := by
    obtain ⟨whole, hwhole, rfl⟩ := Option.map_eq_some_iff.mp hpeers
    refine ⟨by simpa using hcount whole hwhole, fun p hp => ?_⟩
    obtain ⟨q, -, rfl⟩ := List.mem_map.mp hp
    exact airTime_lt q.2

end RangingResponse

namespace Setting

def heard (s : Setting) : Setting := { s with value := s.value.take 255 }

theorem encodeAll_heard (settings : List Setting) : encodeAll (settings.map heard) = encodeAll settings := by
  simp only [encodeAll, heard, List.length_map, List.flatMap_map, Wire.counted_take]

theorem heard_wellFormed {settings : List Setting} (hcount : settings.length ≤ 255) :
    WellFormed (settings.map heard) := by
  refine ⟨by simpa using hcount, fun s hs => ?_⟩
  obtain ⟨whole, -, rfl⟩ := List.mem_map.mp hs
  exact length_take_counted whole.value

end Setting

namespace SettingsRequest

def heard : SettingsRequest → SettingsRequest
  | write settings => write (settings.map Setting.heard)
  | test data => test (data.take 255)
  | r => r

theorem encodeBody_heard (r : SettingsRequest) : r.heard.subtype = r.subtype ∧ r.heard.encodeBody = r.encodeBody := by
  cases r with
  | write settings => exact ⟨rfl, Setting.encodeAll_heard settings⟩
  | test data => exact ⟨rfl, congrArg Except.ok (Wire.counted_take data)⟩
  | _ => exact ⟨rfl, rfl⟩

theorem heard_wellFormed {r : SettingsRequest} (hcount : r.count ≤ 255) : r.heard.WellFormed := by
  cases r with
  | read keys => exact hcount
  | write settings => exact Setting.heard_wellFormed hcount
  | delete keys => exact hcount
  | test data => exact length_take_counted data
  | _ => trivial

end SettingsRequest

namespace SettingsResponse

def heard : SettingsResponse → SettingsResponse
  | read settings => read (settings.map Setting.heard)
  | test data => test (data.take 255)
  | r => r

theorem encodeBody_heard (r : SettingsResponse) : r.heard.subtype = r.subtype ∧ r.heard.encodeBody = r.encodeBody := by
  cases r with
  | read settings => exact ⟨rfl, Setting.encodeAll_heard settings⟩
  | test data => exact ⟨rfl, congrArg Except.ok (Wire.counted_take data)⟩
  | _ => exact ⟨rfl, rfl⟩

theorem heard_wellFormed {r : SettingsResponse} (hcount : r.count ≤ 255) : r.heard.WellFormed := by
  cases r with
  | enumerate iterator keys => exact hcount
  | read settings => exact Setting.heard_wellFormed hcount
  | test data => exact length_take_counted data
  | _ => trivial

end SettingsResponse

namespace Payload

-- The payload as it is received: what is longer than its field on the air is cut to it.
def heard : Payload → Payload
  | blink b => blink b.heard
  | beacon b => beacon { b with subtype := b.subtype &&& 0x0f }
  | rangingRequest r => rangingRequest { r with subtype := r.subtype &&& 0x0f }
  | rangingResponse r => rangingResponse r.heard
  | configRequest r => configRequest r.heard
  | configResponse r => configResponse r.heard
  | timing t => timing t.heard
  | encrypted data => encrypted data
  | raw data => raw data

theorem type_heard (p : Payload) : p.heard.type? = p.type? := by
  cases p <;> rfl

variable {p : Payload}

theorem alike_of_not_refuses {t : TimingReport} (h : ∀ error, ¬ (timing t).Refuses error) : t.Alike := by
  by_contra hmixed
  exact h _ (.entryFields hmixed)

theorem heard_wellFormed (h : ∀ error, ¬ p.Refuses error) : p.heard.WellFormed := by
  cases p with
  | blink b =>
    refine Blink.heard_wellFormed fun es hes => ?_
    have hcount : es.length ≤ 255 := Nat.le_of_not_lt fun hcount => h _ (.elementCount hes hcount)
    refine ⟨hcount, ?_⟩
    by_contra hmisfit
    obtain ⟨front, e, back, rfl, hfront, hbad⟩ := Element.exists_first_misfit hmisfit
    exact h _ (.elementWidth hes hcount hfront hbad)
  | beacon b => exact Bits.and_nibble_lt b.subtype
  | rangingRequest r => exact Bits.and_nibble_lt r.subtype
  | rangingResponse r =>
    exact RangingResponse.heard_wellFormed fun peers hpeers =>
      Nat.le_of_not_lt fun hcount => h _ (.peerCount hpeers hcount)
  | configRequest r =>
    exact SettingsRequest.heard_wellFormed (Nat.le_of_not_lt fun hcount => h _ (.requestCount hcount))
  | configResponse r =>
    exact SettingsResponse.heard_wellFormed (Nat.le_of_not_lt fun hcount => h _ (.responseCount hcount))
  | timing t =>
    have halike := alike_of_not_refuses h
    exact TimingReport.heard_wellFormed halike fun hfull =>
      Nat.le_of_not_lt fun hcount => h _ (.entryCount halike hfull hcount)
  | encrypted data => trivial
  | raw data =>
    constructor
    · intro hhead
      obtain ⟨rest, rfl⟩ := List.head?_eq_some_iff.mp hhead
      exact h _ (.magic (.inl rfl))
    · intro hhead
      obtain ⟨rest, rfl⟩ := List.head?_eq_some_iff.mp hhead
      exact h _ (.magic (.inr rfl))

theorem tagged_congr {type : PayloadType} {subtype subtype' : UInt8} {body body' : Except FrameError (List UInt8)}
    (h : subtype = subtype' ∧ body = body') :
    (do return tagged type subtype (← body)) = (do return tagged type subtype' (← body')) := by
  rw [h.1, h.2]

-- What is received would go out again as it came.
theorem encode_heard (h : ∀ error, ¬ p.Refuses error) : p.heard.encode = p.encode := by
  cases p with
  | blink b => exact tagged_congr b.encodeBody_heard
  | beacon b => exact congrArg (fun byte => Except.ok (magic1 :: byte :: b.encodeBody)) (typeByte_nibble _ b.subtype)
  | rangingRequest r => exact congrArg (fun byte => Except.ok [magic1, byte, r.flags]) (typeByte_nibble _ r.subtype)
  | rangingResponse r => exact tagged_congr r.encodeBody_heard
  | configRequest r => exact tagged_congr r.encodeBody_heard
  | configResponse r => exact tagged_congr r.encodeBody_heard
  | timing t => exact tagged_congr (TimingReport.encodeBody_heard (alike_of_not_refuses h))
  | encrypted data => rfl
  | raw data => rfl

theorem not_refuses_of_encode {bytes : List UInt8} (hencode : p.encode = .ok bytes) (error : FrameError) :
    ¬ p.Refuses error := by
  rw [← encode_eq_error_iff, hencode]
  exact nofun

-- Whoever gets a written payload reads it as its receiver hears it.
theorem decode_encode_heard {bytes : List UInt8} (hencode : p.encode = .ok bytes) : decode bytes = .ok p.heard := by
  have hheard := encode_heard (not_refuses_of_encode hencode)
  obtain ⟨written, hwritten, hdecode⟩ := p.heard.decode_encode (heard_wellFormed (not_refuses_of_encode hencode))
  rw [hheard, hencode] at hwritten
  cases hwritten
  exact hdecode

theorem reads_encode_heard {bytes : List UInt8} (htype : p.type?.isSome = true) (hencode : p.encode = .ok bytes) :
    ∃ rest, bytes = magic1 :: rest ∧ Reads readTagged rest p.heard := by
  have hheard := encode_heard (not_refuses_of_encode hencode)
  obtain ⟨rest, hwritten, hread⟩ :=
    p.heard.reads_encode (heard_wellFormed (not_refuses_of_encode hencode)) (by rwa [type_heard])
  rw [hheard, hencode] at hwritten
  cases hwritten
  exact ⟨rest, rfl, hread⟩

end Payload

end UwbRanging
