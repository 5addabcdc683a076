import UwbRanging.Proofs.Frame.Entries
import UwbRanging.Proofs.Frame.Length

namespace UwbRanging

-- What is made of a result fails exactly if the result does.
theorem bind_return_eq_error_iff {α β : Type} {x : Except FrameError α} {f : α → β} {error : FrameError} :
    (do return f (← x)) = Except.error error ↔ x = .error error := by
  cases x with
  | error e => simp [bind, Except.bind]
  | ok a => simp [bind, Except.bind, pure, Except.pure]

theorem ite_error_eq_error_iff {α : Type} {c : Prop} [Decidable c] {e error : FrameError} {a : α} :
    (if c then Except.error e else .ok a) = .error error ↔ c ∧ error = e := by
  by_cases hc : c
  · simp [hc, eq_comm]
  · simp [hc]

namespace Element

-- The value has the form and the width that the id selects. A byte string may be of any length, since it is cut.
def Fits (e : Element) : Prop :=
  match Width.ofId e.id, e.value with
  | .u8, .int n => n < 0x100
  | .u16, .int n => n < 0x10000
  | .u32, .int _ => True
  | .variable, .bytes _ => True
  | _, _ => False

theorem encode_cases (e : Element) :
    (e.Fits ∧ ∃ bytes, e.encode = .ok bytes) ∨ (¬ e.Fits ∧ e.encode = .error (.elementWidth e.id)) := by
  unfold encode valueBytes Fits
  cases Width.ofId e.id <;> cases e.value <;> dsimp only
  case u8.int n => by_cases h : n < 0x100 <;> simp [h, bind, Except.bind, pure, Except.pure]
  case u16.int n => by_cases h : n < 0x10000 <;> simp [h, bind, Except.bind, pure, Except.pure]
  case u32.int n => exact .inl ⟨trivial, _, rfl⟩
  case variable.bytes data => exact .inl ⟨trivial, _, rfl⟩
  case u8.bytes data => exact .inr ⟨not_false, rfl⟩
  case u16.bytes data => exact .inr ⟨not_false, rfl⟩
  case u32.bytes data => exact .inr ⟨not_false, rfl⟩
  case variable.int n => exact .inr ⟨not_false, rfl⟩

-- Elements fail with the first one that does not fit.
theorem encodeAll_eq_error_iff {es : List Element} {error : FrameError} :
    encodeAll es = .error error ↔ ∃ front e back, es = front ++ e :: back ∧ (∀ x ∈ front, x.Fits) ∧ ¬ e.Fits ∧
      error = .elementWidth e.id := by
  induction es with
  | nil => simp [encodeAll, pure, Except.pure]
  | cons e rest ih =>
    rw [encodeAll]
    rcases e.encode_cases with ⟨hfits, bytes, hencode⟩ | ⟨hfits, hencode⟩
    · -- the error is that of a later element
      rw [hencode]
      refine (bind_return_eq_error_iff (f := fun back => bytes ++ back)).trans (ih.trans ⟨?_, ?_⟩)
      · rintro ⟨front, bad, back, rfl, hfront, hbad, herror⟩
        exact ⟨e :: front, bad, back, rfl, List.forall_mem_cons.mpr ⟨hfits, hfront⟩, hbad, herror⟩
      · rintro ⟨front, bad, back, hes, hfront, hbad, herror⟩
        cases front with
        | nil =>
          cases hes
          exact (hbad hfits).elim
        | cons first front =>
          cases hes
          exact ⟨front, bad, back, rfl, (List.forall_mem_cons.mp hfront).2, hbad, herror⟩
    · rw [hencode]
      refine ⟨fun h => ⟨[], e, rest, rfl, by simp, hfits, (Except.error.inj h).symm⟩, ?_⟩
      rintro ⟨front, bad, back, hes, hfront, hbad, rfl⟩
      cases front with
      | nil =>
        cases hes
        rfl
      | cons first front =>
        cases hes
        exact (hfits (hfront e List.mem_cons_self)).elim

end Element

theorem Blink.encodeElements_eq_error_iff {es : List Element} {error : FrameError} :
    encodeElements es = .error error ↔ 255 < es.length ∧ error = .unsupported .tooManyElements ∨
      es.length ≤ 255 ∧ Element.encodeAll es = .error error := by
  unfold encodeElements
  by_cases hcount : 255 < es.length
  · simp [hcount, Nat.not_le_of_lt hcount, eq_comm]
  · rw [if_neg hcount]
    simp only [hcount, Nat.le_of_not_lt hcount, false_and, false_or, true_and]
    exact bind_return_eq_error_iff (f := fun back => UInt8.ofNat es.length :: back)

theorem Blink.encodeBody_eq_error_iff {b : Blink} {error : FrameError} :
    b.encodeBody = .error error ↔ ∃ es, b.elements = some es ∧ encodeElements es = .error error := by
  unfold encodeBody
  cases b.elements with
  | none => simp [bind, Except.bind, pure, Except.pure]
  | some es => simpa using bind_return_eq_error_iff (x := encodeElements es)

theorem checkPeers_eq_error_iff {count : Nat} {error : FrameError} :
    checkPeers count = .error error ↔ 255 < count ∧ error = .unsupported (.tooManyPeers count) :=
  ite_error_eq_error_iff

theorem RangingResponse.encodeBody_eq_error_iff {r : RangingResponse} {error : FrameError} :
    r.encodeBody = .error error ↔
      ∃ peers, r.rxTimes = some peers ∧ 255 < peers.length ∧ error = .unsupported (.tooManyPeers peers.length) := by
  unfold encodeBody
  cases r.rxTimes with
  | none => simp [pure, Except.pure]
  | some peers =>
    simp only [Option.some.injEq, exists_eq_left']
    refine (bind_return_eq_error_iff (f := fun _ => Wire.u40 r.txTime ++ encodePeers peers)).trans ?_
    exact checkPeers_eq_error_iff

theorem TimingReport.encodeBody_eq_error_iff {t : TimingReport} {error : FrameError} :
    t.encodeBody = .error error ↔ ¬ t.Alike ∧ error = .unsupported .mixedTimingEntries ∨
      t.Alike ∧ (∀ e ∈ t.entries, e.isBare = false) ∧ 255 < t.entries.length ∧
        error = .unsupported (.tooManyPeers t.entries.length) := by
  by_cases halike : t.Alike
  · by_cases hcrowded : (∀ e ∈ t.entries, e.isBare = false) ∧ 255 < t.entries.length
    · rw [encodeBody_of_crowded halike hcrowded.1 hcrowded.2]
      constructor
      · exact fun h => .inr ⟨halike, hcrowded.1, hcrowded.2, (Except.error.inj h).symm⟩
      · rintro (⟨hmixed, -⟩ | ⟨-, -, -, rfl⟩)
        · exact (hmixed halike).elim
        · rfl
    · obtain ⟨body, hbody⟩ := exists_encodeBody halike fun hfull => Nat.le_of_not_lt fun h => hcrowded ⟨hfull, h⟩
      rw [hbody]
      constructor
      · exact nofun
      · rintro (⟨hmixed, -⟩ | ⟨-, hfull, hcount, -⟩)
        · exact (hmixed halike).elim
        · exact (hcrowded ⟨hfull, hcount⟩).elim
  · rw [encodeBody_of_mixed halike]
    constructor
    · exact fun h => .inl ⟨halike, (Except.error.inj h).symm⟩
    · rintro (⟨-, rfl⟩ | ⟨halike', -⟩)
      · rfl
      · exact (halike halike').elim

-- How many keys or settings are sent behind a count.
def SettingsRequest.count : SettingsRequest → Nat
  | read keys => keys.length
  | write settings => settings.length
  | delete keys => keys.length
  | reset _ => 0
  | enumerate _ => 0
  | salt _ => 0
  | test _ => 0

def SettingsResponse.count : SettingsResponse → Nat
  | enumerate _ keys => keys.length
  | read settings => settings.length
  | reset _ => 0
  | write _ => 0
  | delete _ => 0
  | salt _ => 0
  | test _ => 0

theorem SettingsRequest.encodeBody_eq_error_iff {r : SettingsRequest} {error : FrameError} :
    r.encodeBody = .error error ↔ 255 < r.count ∧ error = .unsupported .tooManyKeys := by
  cases r with
  | read keys => exact ite_error_eq_error_iff
  | write settings => exact ite_error_eq_error_iff
  | delete keys => exact ite_error_eq_error_iff
  | reset magic => simp [encodeBody, count]
  | enumerate iterator => simp [encodeBody, count]
  | salt bytes => simp [encodeBody, count]
  | test data => simp [encodeBody, count]

theorem SettingsResponse.encodeBody_eq_error_iff {r : SettingsResponse} {error : FrameError} :
    r.encodeBody = .error error ↔ 255 < r.count ∧ error = .unsupported .tooManyKeys := by
  cases r with
  | enumerate iterator keys =>
    exact (bind_return_eq_error_iff (f := fun back => Wire.u16 iterator ++ back)).trans ite_error_eq_error_iff
  | read settings => exact ite_error_eq_error_iff
  | reset magic => simp [encodeBody, count]
  | write code => simp [encodeBody, count]
  | delete code => simp [encodeBody, count]
  | salt bytes => simp [encodeBody, count]
  | test data => simp [encodeBody, count]

namespace Payload

-- What stands in the way of a payload, one case for each reason.
inductive Refuses : Payload → FrameError → Prop where
  | elementCount {b : Blink} {es : List Element} : b.elements = some es → 255 < es.length →
      Refuses (blink b) (.unsupported .tooManyElements)
  | elementWidth {b : Blink} {front back : List Element} {e : Element} : b.elements = some (front ++ e :: back) →
      (front ++ e :: back).length ≤ 255 → (∀ x ∈ front, x.Fits) → ¬ e.Fits → Refuses (blink b) (.elementWidth e.id)
  | peerCount {r : RangingResponse} {peers : List (Address × UInt64)} : r.rxTimes = some peers →
      255 < peers.length → Refuses (rangingResponse r) (.unsupported (.tooManyPeers peers.length))
  | requestCount {r : SettingsRequest} : 255 < r.count → Refuses (configRequest r) (.unsupported .tooManyKeys)
  | responseCount {r : SettingsResponse} : 255 < r.count → Refuses (configResponse r) (.unsupported .tooManyKeys)
  | entryFields {t : TimingReport} : ¬ t.Alike → Refuses (timing t) (.unsupported .mixedTimingEntries)
  | entryCount {t : TimingReport} : t.Alike → (∀ e ∈ t.entries, e.isBare = false) → 255 < t.entries.length →
      Refuses (timing t) (.unsupported (.tooManyPeers t.entries.length))
  | magic {first : UInt8} {rest : List UInt8} : first = magic1 ∨ first = magic2 →
      Refuses (raw (first :: rest)) (.unsupported (.rawMagic first))

-- Security is asked for in the header alone.
theorem not_refuses_security {p : Payload} : ¬ p.Refuses (.unsupported .security) := nofun

variable {error : FrameError}

theorem encode_blink_eq_error_iff {b : Blink} :
    (blink b).encode = .error error ↔ Refuses (blink b) error := by
  refine (bind_return_eq_error_iff.trans Blink.encodeBody_eq_error_iff).trans ⟨?_, fun h => ?_⟩
  · rintro ⟨es, hes, herror⟩
    rcases Blink.encodeElements_eq_error_iff.mp herror with ⟨hcount, rfl⟩ | ⟨hcount, herror⟩
    · exact .elementCount hes hcount
    · obtain ⟨front, e, back, rfl, hfront, he, rfl⟩ := Element.encodeAll_eq_error_iff.mp herror
      exact .elementWidth hes hcount hfront he
  · cases h with
    | elementCount hes hcount => exact ⟨_, hes, Blink.encodeElements_eq_error_iff.mpr (.inl ⟨hcount, rfl⟩)⟩
    | @elementWidth _ front back e hes hcount hfront he =>
      have herror := Element.encodeAll_eq_error_iff.mpr ⟨front, e, back, rfl, hfront, he, rfl⟩
      exact ⟨_, hes, Blink.encodeElements_eq_error_iff.mpr (.inr ⟨hcount, herror⟩)⟩

theorem encode_rangingResponse_eq_error_iff {r : RangingResponse} :
    (rangingResponse r).encode = .error error ↔ Refuses (rangingResponse r) error := by
  refine (bind_return_eq_error_iff.trans RangingResponse.encodeBody_eq_error_iff).trans ⟨?_, fun h => ?_⟩
  · rintro ⟨peers, hpeers, hcount, rfl⟩
    exact .peerCount hpeers hcount
  · cases h with
    | peerCount hpeers hcount => exact ⟨_, hpeers, hcount, rfl⟩

theorem encode_timing_eq_error_iff {t : TimingReport} :
    (timing t).encode = .error error ↔ Refuses (timing t) error := by
  refine (bind_return_eq_error_iff.trans TimingReport.encodeBody_eq_error_iff).trans ⟨?_, fun h => ?_⟩
  · rintro (⟨hmixed, rfl⟩ | ⟨halike, hfull, hcount, rfl⟩)
    · exact .entryFields hmixed
    · exact .entryCount halike hfull hcount
  · cases h with
    | entryFields hmixed => exact .inl ⟨hmixed, rfl⟩
    | entryCount halike hfull hcount => exact .inr ⟨halike, hfull, hcount, rfl⟩

theorem encode_raw_eq_error_iff {data : List UInt8} : (raw data).encode = .error error ↔ Refuses (raw data) error := by
  cases data with
  | nil => exact ⟨nofun, nofun⟩
  | cons first rest =>
    refine ite_error_eq_error_iff.trans ⟨?_, fun h => ?_⟩
    · rintro ⟨hmagic, rfl⟩
      exact .magic hmagic
    · cases h with
      | magic hmagic => exact ⟨hmagic, rfl⟩

-- These are all the reasons there are.
theorem encode_eq_error_iff {p : Payload} : p.encode = .error error ↔ p.Refuses error := by
  cases p with
  | blink b => exact encode_blink_eq_error_iff
  | beacon b => exact ⟨nofun, nofun⟩
  | rangingRequest r => exact ⟨nofun, nofun⟩
  | rangingResponse r => exact encode_rangingResponse_eq_error_iff
  | configRequest r =>
    refine (bind_return_eq_error_iff.trans SettingsRequest.encodeBody_eq_error_iff).trans ⟨?_, fun h => ?_⟩
    · rintro ⟨hcount, rfl⟩
      exact .requestCount hcount
    · cases h with
      | requestCount hcount => exact ⟨hcount, rfl⟩
  | configResponse r =>
    refine (bind_return_eq_error_iff.trans SettingsResponse.encodeBody_eq_error_iff).trans ⟨?_, fun h => ?_⟩
    · rintro ⟨hcount, rfl⟩
      exact .responseCount hcount
    · cases h with
      | responseCount hcount => exact ⟨hcount, rfl⟩
  | timing t => exact encode_timing_eq_error_iff
  | encrypted data => exact ⟨nofun, nofun⟩
  | raw data => exact encode_raw_eq_error_iff

end Payload

end UwbRanging
