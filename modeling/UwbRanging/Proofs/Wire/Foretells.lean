import UwbRanging.Proofs.Wire.Steady

namespace UwbRanging

variable {α β : Type}

-- What the answer on a buffer says of the answers on all buffers that go on with it, for a decoder
-- that knows where the values `bounded` end.
structure Foretells (decode : List UInt8 → Except FrameError α) (bounded : α → Prop) (bytes : List UInt8) :
    Prop where
  error : ∀ e, decode bytes = .error e →
    (∃ need available, e = .truncated need available) ∨ ∃ feature, e = .unsupported feature
  value : ∀ a, decode bytes = .ok a → bounded a → ∀ more, decode (bytes ++ more) = .ok a
  unsupported : ∀ feature, decode bytes = .error (.unsupported feature) →
    ∀ more, decode (bytes ++ more) = .error (.unsupported feature)
  truncated : ∀ need available, decode bytes = .error (.truncated need available) →
    available = bytes.length ∧ bytes.length < need
  short : ∀ need available, decode bytes = .error (.truncated need available) →
    ∀ more, (bytes ++ more).length < need →
      decode (bytes ++ more) = .error (.truncated need (bytes ++ more).length)
  long : ∀ need available, decode bytes = .error (.truncated need available) →
    ∀ more, need ≤ (bytes ++ more).length →
      ∀ need' available', decode (bytes ++ more) = .error (.truncated need' available') → need < need'

namespace Foretells

variable {decode decode' : List UInt8 → Except FrameError α} {bounded : α → Prop} {bytes : List UInt8}

theorem of_steady {r : Reader α} (hr : Steady r) (bytes : List UInt8) :
    Foretells (Reader.run r) (fun _ => True) bytes := by
  -- What every error says, here of `bytes` and in `long` of a longer buffer.
  have hkept : ∀ {data e}, Reader.run r data = .error e → ErrorKept r (Cursor.start data) e :=
    fun {data e} h => hr.error (Cursor.valid_start data) (Reader.run_eq_error_iff.mp h)
  constructor
  case error =>
    intro e h
    have he := hkept h
    cases e with
    | truncated need available => exact .inl ⟨need, available, rfl⟩
    | unsupported feature => exact .inr ⟨feature, rfl⟩
    | addressLength _ => exact he.elim
    | elementWidth _ => exact he.elim
    | invalidHex _ => exact he.elim
  case value =>
    rintro ⟨a, length⟩ h - more
    obtain ⟨front, rest, hbytes, hlength, hreads⟩ := hr.run_eq_ok_iff.mp h
    exact hr.run_eq_ok_iff.mpr ⟨front, rest ++ more, by rw [hbytes, List.append_assoc], hlength, hreads⟩
  case unsupported =>
    intro feature h more
    rw [Reader.run_eq_error_iff, Cursor.start_append]
    exact hkept h more
  case truncated =>
    intro need available h
    obtain ⟨havailable, hneed, -⟩ := hkept h
    exact ⟨havailable, hneed⟩
  case short =>
    intro need available h more hshort
    obtain ⟨-, -, hmore⟩ := hkept h
    rw [List.length_append] at hshort ⊢
    rw [Reader.run_eq_error_iff, Cursor.start_append]
    exact hmore more hshort
  case long =>
    intro need available h more hlong need' available' h'
    obtain ⟨-, hneed', -⟩ := hkept h'
    exact Nat.lt_of_le_of_lt hlong hneed'

theorem map (h : Foretells decode (fun _ => True) bytes) (f : α → β) (bounded : β → Prop) :
    Foretells (fun data => (decode data).map f) bounded bytes := by
  have herror : ∀ {data e}, (decode data).map f = .error e → decode data = .error e := by
    intro data e he
    cases hd : decode data with
    | error e' =>
      rw [hd] at he
      cases he
      rfl
    | ok a =>
      rw [hd] at he
      cases he
  constructor
  case error => exact fun e he => h.error e (herror he)
  case value =>
    intro b hb _ more
    cases hd : decode bytes with
    | error e => simp [hd, Except.map] at hb
    | ok a =>
      rw [hd] at hb
      rw [h.value a hd trivial more]
      exact hb
  case unsupported => exact fun feature he more => congrArg (Except.map f) (h.unsupported feature (herror he) more)
  case truncated => exact fun need available he => h.truncated need available (herror he)
  case short =>
    exact fun need available he more hshort =>
      congrArg (Except.map f) (h.short need available (herror he) more hshort)
  case long =>
    exact fun need available he more hlong need' available' he' =>
      h.long need available (herror he) more hlong need' available' (herror he')

-- Only the buffer and those that go on with it matter.
theorem congr (h : Foretells decode bounded bytes) (heq : ∀ more, decode' (bytes ++ more) = decode (bytes ++ more)) :
    Foretells decode' bounded bytes := by
  have hself : decode' bytes = decode bytes := by simpa using heq []
  constructor <;> simp only [heq, hself]
  case error => exact h.error
  case value => exact h.value
  case unsupported => exact h.unsupported
  case truncated => exact h.truncated
  case short => exact h.short
  case long => exact h.long

-- A value whose end is not known says nothing.
theorem of_unbounded {a : α} (h : decode bytes = .ok a) (ha : ¬bounded a) : Foretells decode bounded bytes := by
  have hvalue : ∀ b, decode bytes = .ok b → bounded b → False := by
    intro b hb hbounded
    rw [h] at hb
    cases hb
    exact ha hbounded
  have herror : ∀ e, decode bytes ≠ .error e := fun e he => by simp [h] at he
  constructor
  case error => exact fun e he => (herror e he).elim
  case value => exact fun b hb hbounded => (hvalue b hb hbounded).elim
  case unsupported => exact fun _ he => (herror _ he).elim
  case truncated => exact fun _ _ he => (herror _ he).elim
  case short => exact fun _ _ he => (herror _ he).elim
  case long => exact fun _ _ he => (herror _ he).elim

end Foretells

-- Of a value that was read from all bytes, no part will do: reading ends at a field that is cut off, and that field
-- ends within them.
theorem Steady.run_take {r : Reader α} (hr : Steady r) {bytes : List UInt8} {a : α} (hreads : Reads r bytes a) {k : Nat}
    (hk : k < bytes.length) :
    ∃ need, Reader.run r (bytes.take k) = .error (.truncated need k) ∧ k < need ∧ need ≤ bytes.length := by
  have hwhole : Reader.run r (bytes.take k ++ bytes.drop k) = .ok (a, bytes.length) := by
    rw [List.take_append_drop, ← List.append_nil bytes]
    simpa using hreads.run []
  have hlength : (bytes.take k).length = k := List.length_take_of_le (Nat.le_of_lt hk)
  have hforetells := Foretells.of_steady hr (bytes.take k)
  cases hcut : Reader.run r (bytes.take k) with
  | ok value =>
    -- it would be read from the whole with the same length
    rw [hforetells.value value hcut trivial] at hwhole
    obtain ⟨front, rest, hsplit, hfront, -⟩ := hr.run_eq_ok_iff.mp ((Except.ok.inj hwhole) ▸ hcut)
    have hle : front.length ≤ (bytes.take k).length := by simp [hsplit]
    omega
  | error e =>
    rcases hforetells.error e hcut with ⟨need, available, rfl⟩ | ⟨feature, rfl⟩
    · obtain ⟨rfl, hneed⟩ := hforetells.truncated need available hcut
      rw [hlength] at hneed ⊢
      refine ⟨need, rfl, hneed, Nat.le_of_not_lt fun hmore => ?_⟩
      have hshort := hforetells.short need _ hcut (bytes.drop k) (by rwa [List.take_append_drop])
      rw [hwhole] at hshort
      cases hshort
    · rw [hforetells.unsupported feature hcut] at hwhole
      cases hwhole

end UwbRanging
