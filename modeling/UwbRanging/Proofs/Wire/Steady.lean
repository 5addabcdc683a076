import UwbRanging.Wire.LongMask
import UwbRanging.Proofs.Wire.Reads

namespace UwbRanging

namespace Cursor

-- The same place in a buffer that goes on with further bytes.
def extend (c : Cursor) (more : List UInt8) : Cursor := ⟨c.size + more.length, c.rest ++ more⟩

-- What is left to read is part of the buffer.
def Valid (c : Cursor) : Prop := c.rest.length ≤ c.size

theorem valid_start (bytes : List UInt8) : (start bytes).Valid := Nat.le_refl bytes.length

theorem start_append (bytes more : List UInt8) : start (bytes ++ more) = (start bytes).extend more := by
  rw [start, List.length_append]
  rfl

end Cursor

namespace Reader

variable {α β : Type} {r : Reader α} {f : α → Reader β} {c c' c'' : Cursor} {a : α} {b : β} {e : FrameError}

theorem bind_of_ok (h : r c = .ok (a, c')) : (r >>= f) c = f a c' := by
  change (r c >>= fun p => f p.1 p.2) = _
  rw [h]
  rfl

theorem bind_of_error (h : r c = .error e) : (r >>= f) c = .error e := by
  change (r c >>= fun p => f p.1 p.2) = _
  rw [h]
  rfl

theorem exists_of_bind_ok (h : (r >>= f) c = .ok (b, c'')) :
    ∃ a c', r c = .ok (a, c') ∧ f a c' = .ok (b, c'') := by
  cases hr : r c with
  | error e => simp [bind_of_error hr] at h
  | ok p => exact ⟨p.1, p.2, rfl, (bind_of_ok hr).symm.trans h⟩

theorem exists_of_bind_error (h : (r >>= f) c = .error e) :
    r c = .error e ∨ ∃ a c', r c = .ok (a, c') ∧ f a c' = .error e := by
  cases hr : r c with
  | error e' =>
    have he := (bind_of_error (f := f) hr).symm.trans h
    cases he
    exact .inl rfl
  | ok p => exact .inr ⟨p.1, p.2, rfl, (bind_of_ok hr).symm.trans h⟩

theorem run_eq_error_iff {bytes : List UInt8} : run r bytes = .error e ↔ r (Cursor.start bytes) = .error e := by
  unfold run StateT.run
  cases r (Cursor.start bytes) with
  | error e' =>
    change Except.error e' = Except.error e ↔ _
    simp
  | ok p =>
    change Except.ok (p.1, p.2.consumed) = Except.error e ↔ _
    simp

end Reader

section
variable {α β : Type}

-- What an error on a buffer says of the same step on longer ones. What is unsupported stays so. What
-- is missing is missing until the buffer has the length that the error asks for.
def ErrorKept (r : Reader α) (c : Cursor) : FrameError → Prop
  | .unsupported feature => ∀ more, r (c.extend more) = .error (.unsupported feature)
  | .truncated need available =>
    available = c.size ∧ c.size < need ∧
      ∀ more, c.size + more.length < need → r (c.extend more) = .error (.truncated need (c.size + more.length))
  | _ => False

-- An error is kept by each step that passes on the errors of one that keeps it.
theorem ErrorKept.of_error {r : Reader α} {s : Reader β} {c c' : Cursor} {e : FrameError}
    (h : ErrorKept r c' e) (hsize : c'.size = c.size)
    (hpass : ∀ more e', r (c'.extend more) = .error e' → s (c.extend more) = .error e') : ErrorKept s c e := by
  cases e with
  | unsupported feature => exact fun more => hpass more _ (h more)
  | truncated need available =>
    unfold ErrorKept at h ⊢
    rw [hsize] at h
    obtain ⟨havailable, hneed, hmore⟩ := h
    exact ⟨havailable, hneed, fun more hshort => hpass more _ (hmore more hshort)⟩
  | addressLength _ => exact h
  | elementWidth _ => exact h
  | invalidHex _ => exact h

-- A step that looks at nothing but the bytes that it takes, and at their end only for an error.
structure Steady (r : Reader α) : Prop where
  value : ∀ {c c' : Cursor} {a : α}, r c = .ok (a, c') →
    c'.size = c.size ∧ ∃ front, c.rest = front ++ c'.rest ∧ Reads r front a
  error : ∀ {c : Cursor} {e : FrameError}, c.Valid → r c = .error e → ErrorKept r c e

namespace Steady

theorem extend {r : Reader α} (hr : Steady r) {c c' : Cursor} {a : α} (h : r c = .ok (a, c')) (more : List UInt8) :
    r (c.extend more) = .ok (a, c'.extend more) := by
  obtain ⟨hsize, front, hrest, hreads⟩ := hr.value h
  rw [Cursor.extend, hrest, List.append_assoc, hreads, Cursor.extend, hsize]

theorem valid {r : Reader α} (hr : Steady r) {c c' : Cursor} {a : α} (h : r c = .ok (a, c')) (hc : c.Valid) :
    c'.Valid := by
  obtain ⟨hsize, front, hrest, -⟩ := hr.value h
  have hlength : c.rest.length = front.length + c'.rest.length := by rw [hrest, List.length_append]
  unfold Cursor.Valid at hc ⊢
  omega

theorem pure (a : α) : Steady (Pure.pure a) where
  value := by
    rintro c c' a' h
    cases h
    exact ⟨rfl, [], rfl, Reads.pure a⟩
  error := by
    rintro c e - h
    cases h

theorem unsupported (feature : Unsupported) : Steady (Reader.unsupported (α := α) feature) where
  value := by
    rintro c c' a h
    cases h
  error := by
    rintro c e - h
    cases h
    exact fun _ => rfl

-- An error of the first step is one of both. An error of the second is one on what the first leaves,
-- and the first leaves the same in front of further bytes.
theorem bind {r : Reader α} {f : α → Reader β} (hr : Steady r) (hf : ∀ a, Steady (f a)) : Steady (r >>= f) where
  value := by
    intro c c'' b h
    obtain ⟨a, c', hfirst, hsecond⟩ := Reader.exists_of_bind_ok h
    obtain ⟨hsize, front, hrest, hreads⟩ := hr.value hfirst
    obtain ⟨hsize', back, hrest', hreads'⟩ := (hf a).value hsecond
    refine ⟨hsize'.trans hsize, front ++ back, ?_, hreads.bind hreads'⟩
    rw [hrest, hrest', List.append_assoc]
  error := by
    intro c e hc h
    rcases Reader.exists_of_bind_error h with hfirst | ⟨a, c', hfirst, hsecond⟩
    · exact (hr.error hc hfirst).of_error rfl fun more e' => Reader.bind_of_error
    · refine ((hf a).error (hr.valid hfirst hc) hsecond).of_error (hr.value hfirst).1 fun more e' h' => ?_
      exact (Reader.bind_of_ok (hr.extend hfirst more)).trans h'

theorem map {r : Reader α} (hr : Steady r) (f : α → β) : Steady (r >>= fun a => Pure.pure (f a)) :=
  hr.bind fun a => pure (f a)

theorem map₂ {γ : Type} {r : Reader α} {s : Reader β} (hr : Steady r) (hs : Steady s) (f : α → β → γ) :
    Steady (r >>= fun a => s >>= fun b => Pure.pure (f a b)) :=
  hr.bind fun a => hs.map (f a)

-- The error tells how long the buffer has to be for this read: with fewer bytes it is the same one.
theorem octets (n : Nat) : Steady (Reader.octets n) where
  value := by
    intro c c' o h
    unfold Reader.octets at h
    split at h
    · rename_i hn
      cases h
      have hreads := Reads.octets (⟨c.rest.take n, by simp [hn]⟩ : Octets n)
      exact ⟨rfl, c.rest.take n, (List.take_append_drop n c.rest).symm, hreads⟩
    · cases h
  error := by
    intro c e hc h
    unfold Cursor.Valid at hc
    unfold Reader.octets at h
    split at h
    · cases h
    · rename_i hn
      cases h
      refine ⟨rfl, by unfold Cursor.consumed; omega, fun more hshort => ?_⟩
      have hfew : ¬n ≤ (c.extend more).rest.length := by
        unfold Cursor.consumed at hshort
        simp only [Cursor.extend, List.length_append]
        omega
      have hconsumed : (c.extend more).consumed = c.consumed := by
        simp only [Cursor.consumed, Cursor.extend, List.length_append]
        omega
      rw [Reader.octets, dif_neg hfew, hconsumed]
      rfl

theorem bytes (n : Nat) : Steady (Reader.bytes n) := (octets n).map Octets.toList

theorem nat (width : Nat) : Steady (Reader.nat width) := (bytes width).map LittleEndian.decode

theorem u8 : Steady Reader.u8 := (nat 1).map UInt8.ofNat

theorem u16 : Steady Reader.u16 := (nat 2).map UInt16.ofNat

theorem u32 : Steady Reader.u32 := (nat 4).map UInt32.ofNat

theorem u40 : Steady Reader.u40 := (nat 5).map UInt64.ofNat

theorem counted : Steady Reader.counted := u8.bind fun n => bytes n.toNat

theorem times {step : Reader α} (hstep : Steady step) (n : Nat) : Steady (Reader.times step n) := by
  induction n with
  | zero => exact pure []
  | succ n ih => exact hstep.map₂ ih List.cons

theorem each {step : α → Reader β} (hstep : ∀ a, Steady (step a)) (keys : List α) :
    Steady (Reader.each step keys) := by
  induction keys with
  | nil => exact pure []
  | cons key rest ih => exact (hstep key).map₂ ih List.cons

theorem when {step : Reader α} (announced : Bool) (hstep : Steady step) : Steady (Reader.when announced step) := by
  cases announced with
  | false => exact pure none
  | true => exact hstep.map some

-- A reader gives a value exactly if its bytes are at the front, and their number with it.
theorem run_eq_ok_iff {r : Reader α} (hr : Steady r) {bytes : List UInt8} {a : α} {length : Nat} :
    Reader.run r bytes = .ok (a, length) ↔
      ∃ front rest, bytes = front ++ rest ∧ front.length = length ∧ Reads r front a := by
  constructor
  · intro h
    cases hstep : r (Cursor.start bytes) with
    | error e => simp [Reader.run_eq_error_iff.mpr hstep] at h
    | ok p =>
      obtain ⟨-, front, hrest, hreads⟩ := hr.value hstep
      have hrun := hreads.run p.2.rest
      rw [← hrest, show (Cursor.start bytes).rest = bytes from rfl, h] at hrun
      cases hrun
      exact ⟨front, p.2.rest, hrest, rfl, hreads⟩
  · rintro ⟨front, rest, rfl, rfl, hreads⟩
    exact hreads.run rest

end Steady

end

theorem LongMask.steady_decode : Steady LongMask.decode :=
  Steady.u8.bind fun count => (Steady.bytes (width count.toNat)).map
    fun packed => (packed.flatMap unpackByte).take count.toNat

end UwbRanging
