import UwbRanging.Wire.Reader

namespace UwbRanging

-- The step reads exactly these bytes: on every buffer that goes on with them it gives the value and
-- leaves what follows.
def Reads {α : Type} (r : Reader α) (bytes : List UInt8) (a : α) : Prop :=
  ∀ size rest, r ⟨size, bytes ++ rest⟩ = .ok (a, ⟨size, rest⟩)

-- The encoding succeeds, and its bytes are those from which the step reads the value.
def ReadsBack {α : Type} (r : Reader α) (encoding : Except FrameError (List UInt8)) (a : α) : Prop :=
  ∃ bytes, encoding = .ok bytes ∧ Reads r bytes a

namespace Reads

variable {α β : Type}

theorem pure (a : α) : Reads (Pure.pure a) [] a := fun _ _ => rfl

theorem bind {r : Reader α} {f : α → Reader β} {front back : List UInt8} {a : α} {b : β}
    (hr : Reads r front a) (hf : Reads (f a) back b) : Reads (r >>= f) (front ++ back) b := by
  intro size rest
  rw [List.append_assoc]
  calc
    (r >>= f) ⟨size, front ++ (back ++ rest)⟩
        = (r ⟨size, front ++ (back ++ rest)⟩ >>= fun p => f p.1 p.2) := rfl
    _ = f a ⟨size, back ++ rest⟩ := by rw [hr]; rfl
    _ = .ok (b, ⟨size, rest⟩) := hf size rest

-- The value that was read, put into another one.
theorem map {r : Reader α} {bytes : List UInt8} {a : α} (hr : Reads r bytes a) (f : α → β) :
    Reads (r >>= fun x => Pure.pure (f x)) bytes (f a) := by
  have h := hr.bind (f := fun x => Pure.pure (f x)) (pure (f a))
  rwa [List.append_nil] at h

-- Two values that are read one after the other, put into a third.
theorem map₂ {γ : Type} {r : Reader α} {s : Reader β} {front back : List UInt8} {a : α} {b : β}
    (hr : Reads r front a) (hs : Reads s back b) (f : α → β → γ) :
    Reads (r >>= fun x => s >>= fun y => Pure.pure (f x y)) (front ++ back) (f a b) :=
  hr.bind (f := fun x => s >>= fun y => Pure.pure (f x y)) (hs.map (f a))

theorem octets {n : Nat} (o : Octets n) : Reads (Reader.octets n) o.toList o := by
  intro size rest
  obtain ⟨bytes, rfl⟩ := o
  simp [Reader.octets]

theorem bytes (data : List UInt8) : Reads (Reader.bytes data.length) data data :=
  (octets ⟨data, rfl⟩).map Octets.toList

-- A number comes back as far as its width goes.
theorem nat_mod (width value : Nat) :
    Reads (Reader.nat width) (LittleEndian.encode width value) (value % LittleEndian.span width) := by
  have h := (bytes (LittleEndian.encode width value)).map LittleEndian.decode
  rwa [LittleEndian.length_encode, LittleEndian.decode_encode] at h

theorem nat {width value : Nat} (hvalue : value < LittleEndian.span width) :
    Reads (Reader.nat width) (LittleEndian.encode width value) value := by
  have h := nat_mod width value
  rwa [Nat.mod_eq_of_lt hvalue] at h

theorem u8 (v : UInt8) : Reads Reader.u8 (Wire.u8 v) v := by
  have hv : v.toNat < LittleEndian.span 1 := v.toNat_lt
  have h := (nat hv).map UInt8.ofNat
  rwa [LittleEndian.encode, LittleEndian.encode, UInt8.ofNat_toNat] at h

theorem u16 (v : UInt16) : Reads Reader.u16 (Wire.u16 v) v := by
  have hv : v.toNat < LittleEndian.span 2 := v.toNat_lt
  have h := (nat hv).map UInt16.ofNat
  rwa [UInt16.ofNat_toNat] at h

theorem u32 (v : UInt32) : Reads Reader.u32 (Wire.u32 v) v := by
  have hv : v.toNat < LittleEndian.span 4 := v.toNat_lt
  have h := (nat hv).map UInt32.ofNat
  rwa [UInt32.ofNat_toNat] at h

theorem u40 {v : UInt64} (hv : v.toNat < LittleEndian.span 5) : Reads Reader.u40 (Wire.u40 v) v := by
  have h := (nat hv).map UInt64.ofNat
  rwa [UInt64.ofNat_toNat] at h

-- A count byte holds every count that the encoders let through.
theorem toNat_count {n : Nat} (hn : n ≤ 255) : (UInt8.ofNat n).toNat = n := by
  rw [UInt8.toNat_ofNat']
  exact Nat.mod_eq_of_lt (by omega)

theorem counted {data : List UInt8} (hdata : data.length ≤ 255) : Reads Reader.counted (Wire.counted data) data := by
  rw [Wire.counted, Nat.min_eq_left hdata, List.take_of_length_le hdata]
  apply (u8 (UInt8.ofNat data.length)).bind
  rw [toNat_count hdata]
  exact bytes data

-- A step taken once for each of some values reads the bytes of all of them.
theorem times {step : Reader α} {wire : α → List UInt8} {values : List α}
    (hstep : ∀ a ∈ values, Reads step (wire a) a) :
    Reads (Reader.times step values.length) (values.flatMap wire) values := by
  induction values with
  | nil => exact pure []
  | cons a rest ih =>
    have hrest := ih fun b hb => hstep b (List.mem_cons_of_mem a hb)
    exact (hstep a List.mem_cons_self).bind (hrest.map (a :: ·))

theorem countedTimes {step : Reader α} {wire : α → List UInt8} {values : List α}
    (hcount : values.length ≤ 255) (hstep : ∀ a ∈ values, Reads step (wire a) a) :
    Reads (do Reader.times step (← Reader.u8).toNat) (UInt8.ofNat values.length :: values.flatMap wire) values := by
  apply (u8 (UInt8.ofNat values.length)).bind
  rw [toNat_count hcount]
  exact times hstep

theorem each {γ : Type} {step : γ → Reader α} {key : α → γ} {wire : α → List UInt8} {values : List α}
    (hstep : ∀ a ∈ values, Reads (step (key a)) (wire a) a) :
    Reads (Reader.each step (values.map key)) (values.flatMap wire) values := by
  induction values with
  | nil => exact pure []
  | cons a rest ih =>
    have hrest := ih fun b hb => hstep b (List.mem_cons_of_mem a hb)
    exact (hstep a List.mem_cons_self).bind (hrest.map (a :: ·))

-- A field that is announced exactly if it is present.
theorem when {step : Reader α} {wire : α → List UInt8} {field : Option α}
    (hstep : ∀ a, field = some a → Reads step (wire a) a) :
    Reads (Reader.when field.isSome step) (field.elim [] wire) field := by
  cases field with
  | none => exact pure none
  | some a => exact (hstep a rfl).map some

-- What follows the bytes of a value is not looked at.
theorem run {r : Reader α} {bytes : List UInt8} {a : α} (hr : Reads r bytes a) (rest : List UInt8) :
    Reader.run r (bytes ++ rest) = .ok (a, bytes.length) := by
  have h := hr (bytes ++ rest).length rest
  rw [Reader.run, StateT.run, Cursor.start, h]
  simp [Bind.bind, Except.bind, Pure.pure, Except.pure, Cursor.consumed]

end Reads

theorem ReadsBack.map {α β : Type} {r : Reader α} {encoding : Except FrameError (List UInt8)} {a : α}
    (h : ReadsBack r encoding a) (f : α → β) : ReadsBack (r >>= fun x => pure (f x)) encoding (f a) := by
  obtain ⟨bytes, hbytes, hread⟩ := h
  exact ⟨bytes, hbytes, hread.map f⟩

end UwbRanging
