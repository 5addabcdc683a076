import Mathlib.Algebra.Group.Nat.Defs
import Mathlib.Data.List.Basic
import UwbRanging.Proofs.Wire.Steady

namespace UwbRanging

-- Wherever the step gives a value, the bytes that it took and the value meet the rule.
def Accepts {α : Type} (r : Reader α) (rule : List UInt8 → α → Prop) : Prop :=
  ∀ (c c' : Cursor) (a : α), r c = .ok (a, c') → ∃ front, c.rest = front ++ c'.rest ∧ rule front a

namespace Accepts

variable {α β γ : Type} {r : Reader α} {P P' : List UInt8 → α → Prop}

theorem of_reads (h : Accepts r P) {bytes : List UInt8} {a : α} (hreads : Reads r bytes a) : P bytes a := by
  obtain ⟨front, hfront, hrule⟩ := h _ _ _ (hreads 0 [])
  simp only [List.append_nil] at hfront
  rwa [hfront]

theorem mono (h : Accepts r P) (hrule : ∀ bytes a, P bytes a → P' bytes a) : Accepts r P' := by
  intro c c' a hstep
  obtain ⟨front, hfront, ha⟩ := h c c' a hstep
  exact ⟨front, hfront, hrule front a ha⟩

theorem pure {a : α} (h : P [] a) : Accepts (Pure.pure a) P := by
  intro c c' a' hstep
  cases hstep
  exact ⟨[], rfl, h⟩

theorem unsupported (feature : Unsupported) : Accepts (Reader.unsupported feature) P := by
  intro c c' a hstep
  cases hstep

-- The bytes of two steps are those of the first and those of the second.
theorem bind {f : α → Reader β} {Q : α → List UInt8 → β → Prop} {R : List UInt8 → β → Prop}
    (hr : Accepts r P) (hf : ∀ a, Accepts (f a) (Q a)) (hwhole : ∀ x y a b, P x a → Q a y b → R (x ++ y) b) :
    Accepts (r >>= f) R := by
  intro c c'' b hstep
  obtain ⟨a, c', hfirst, hsecond⟩ := Reader.exists_of_bind_ok hstep
  obtain ⟨x, hx, ha⟩ := hr c c' a hfirst
  obtain ⟨y, hy, hb⟩ := hf a c' c'' b hsecond
  exact ⟨x ++ y, by rw [hx, hy, List.append_assoc], hwhole x y a b ha hb⟩

theorem map {f : α → β} {Q : List UInt8 → β → Prop} (hr : Accepts r P) (hwhole : ∀ x a, P x a → Q x (f a)) :
    Accepts (r >>= fun a => Pure.pure (f a)) Q := by
  refine hr.bind (fun a => pure (P := fun y b => y = [] ∧ b = f a) ⟨rfl, rfl⟩) ?_
  rintro x y a b ha ⟨rfl, rfl⟩
  rw [List.append_nil]
  exact hwhole x a ha

-- Two values that are read one after the other, put into a third. The first may tell how to read the second.
theorem bindMap {s : α → Reader β} {Q : α → List UInt8 → β → Prop} {f : α → β → γ} {R : List UInt8 → γ → Prop}
    (hr : Accepts r P) (hs : ∀ a, Accepts (s a) (Q a)) (hwhole : ∀ x y a b, P x a → Q a y b → R (x ++ y) (f a b)) :
    Accepts (r >>= fun a => s a >>= fun b => Pure.pure (f a b)) R := by
  have hback (a : α) : Accepts (s a >>= fun b => Pure.pure (f a b)) fun y c => ∃ b, Q a y b ∧ c = f a b :=
    (hs a).map fun y b hb => ⟨b, hb, rfl⟩
  refine hr.bind hback ?_
  rintro x y a - ha ⟨b, hb, rfl⟩
  exact hwhole x y a b ha hb

theorem map₂ {s : Reader β} {Q : List UInt8 → β → Prop} {f : α → β → γ} {R : List UInt8 → γ → Prop}
    (hr : Accepts r P) (hs : Accepts s Q) (hwhole : ∀ x y a b, P x a → Q y b → R (x ++ y) (f a b)) :
    Accepts (r >>= fun a => s >>= fun b => Pure.pure (f a b)) R :=
  hr.bindMap (fun _ => hs) hwhole

theorem unsupported_bind (feature : Unsupported) (f : α → Reader β) (R : List UInt8 → β → Prop) :
    Accepts (Reader.unsupported feature >>= f) R := by
  intro c c' b hstep
  cases hstep

-- Steps of which the last one gives no value do not give one either.
theorem bind_never {f : α → Reader β} {R : List UInt8 → β → Prop} (hf : ∀ a, Accepts (f a) fun _ _ => False) :
    Accepts (r >>= f) R := by
  intro c c'' b hstep
  obtain ⟨a, c', -, hsecond⟩ := Reader.exists_of_bind_ok hstep
  obtain ⟨-, -, hnever⟩ := hf a c' c'' b hsecond
  exact hnever.elim

theorem octets (n : Nat) : Accepts (Reader.octets n) fun bytes o => bytes = o.toList := by
  intro c c' o hstep
  unfold Reader.octets at hstep
  split at hstep
  · cases hstep
    exact ⟨c.rest.take n, (List.take_append_drop n c.rest).symm, rfl⟩
  · cases hstep

theorem bytes (n : Nat) : Accepts (Reader.bytes n) fun bytes data => bytes = data ∧ data.length = n :=
  (octets n).map fun _ o hx => ⟨hx, o.length_eq⟩

theorem nat (width : Nat) :
    Accepts (Reader.nat width) fun bytes n => bytes = LittleEndian.encode width n ∧ n < LittleEndian.span width := by
  refine (bytes width).map ?_
  rintro x - ⟨rfl, rfl⟩
  exact ⟨(LittleEndian.encode_decode x).symm, LittleEndian.decode_lt x⟩

theorem u8 : Accepts Reader.u8 fun bytes v => bytes = Wire.u8 v :=
  (nat 1).map fun _ _ h => h.1

theorem u16 : Accepts Reader.u16 fun bytes v => bytes = Wire.u16 v := by
  refine (nat 2).map ?_
  rintro - n ⟨rfl, hn⟩
  rw [Wire.u16, UInt16.toNat_ofNat', Nat.mod_eq_of_lt (show n < 2 ^ 16 from hn)]

theorem u32 : Accepts Reader.u32 fun bytes v => bytes = Wire.u32 v := by
  refine (nat 4).map ?_
  rintro - n ⟨rfl, hn⟩
  rw [Wire.u32, UInt32.toNat_ofNat', Nat.mod_eq_of_lt (show n < 2 ^ 32 from hn)]

theorem u40 : Accepts Reader.u40 fun bytes v => bytes = Wire.u40 v ∧ v.toNat < 2 ^ 40 := by
  refine (nat 5).map ?_
  rintro - n ⟨rfl, hn⟩
  have hwide : n < 2 ^ 64 := Nat.lt_trans hn (by decide)
  rw [Wire.u40, UInt64.toNat_ofNat', Nat.mod_eq_of_lt hwide]
  exact ⟨rfl, hn⟩

theorem counted : Accepts Reader.counted fun bytes data => bytes = Wire.counted data ∧ data.length ≤ 255 := by
  refine u8.bind (fun n => bytes n.toNat) ?_
  rintro _ data n _ rfl ⟨rfl, hlength⟩
  have hbyte := n.toNat_lt
  have hn : data.length ≤ 255 := by omega
  refine ⟨?_, hn⟩
  rw [Wire.counted, Nat.min_eq_left hn, List.take_of_length_le hn, hlength, UInt8.ofNat_toNat]
  rfl

variable {step : Reader α} {wire : α → List UInt8} {valid : α → Prop}

theorem times (hstep : Accepts step fun bytes a => bytes = wire a ∧ valid a) (n : Nat) :
    Accepts (Reader.times step n) fun bytes values =>
      bytes = values.flatMap wire ∧ values.length = n ∧ ∀ a ∈ values, valid a := by
  induction n with
  | zero => exact pure ⟨rfl, rfl, by simp⟩
  | succ n ih =>
    refine hstep.map₂ ih ?_
    rintro - - a rest ⟨rfl, ha⟩ ⟨rfl, hlength, hrest⟩
    exact ⟨rfl, congrArg (· + 1) hlength, List.forall_mem_cons.mpr ⟨ha, hrest⟩⟩

theorem countedTimes (hstep : Accepts step fun bytes a => bytes = wire a ∧ valid a) :
    Accepts (do Reader.times step (← Reader.u8).toNat) fun bytes values =>
      bytes = UInt8.ofNat values.length :: values.flatMap wire ∧ values.length ≤ 255 ∧ ∀ a ∈ values, valid a := by
  refine u8.bind (fun count => times hstep count.toNat) ?_
  rintro - - count values rfl ⟨rfl, hlength, hvalues⟩
  have hcount := count.toNat_lt
  refine ⟨?_, by omega, hvalues⟩
  rw [hlength, UInt8.ofNat_toNat]
  rfl

theorem each {step : γ → Reader α} {key : α → γ}
    (hstep : ∀ k, Accepts (step k) fun bytes a => bytes = wire a ∧ key a = k ∧ valid a) (keys : List γ) :
    Accepts (Reader.each step keys) fun bytes values =>
      bytes = values.flatMap wire ∧ values.map key = keys ∧ ∀ a ∈ values, valid a := by
  induction keys with
  | nil => exact pure ⟨rfl, rfl, by simp⟩
  | cons k rest ih =>
    refine (hstep k).map₂ ih ?_
    rintro - - a values ⟨rfl, rfl, ha⟩ ⟨rfl, rfl, hvalues⟩
    exact ⟨rfl, rfl, List.forall_mem_cons.mpr ⟨ha, hvalues⟩⟩

theorem when (hstep : Accepts step P) (announced : Bool) :
    Accepts (Reader.when announced step) fun bytes field =>
      field.isSome = announced ∧ field.elim (bytes = []) (P bytes) := by
  cases announced with
  | false => exact pure ⟨rfl, rfl⟩
  | true => exact hstep.map fun bytes a ha => ⟨rfl, ha⟩

theorem whenWire (hstep : Accepts step fun bytes a => bytes = wire a ∧ valid a) (announced : Bool) :
    Accepts (Reader.when announced step) fun bytes field =>
      bytes = field.elim [] wire ∧ field.isSome = announced ∧ ∀ a, field = some a → valid a := by
  refine (hstep.when announced).mono ?_
  rintro bytes (_ | a) ⟨hsome, hfield⟩
  · exact ⟨hfield, hsome, fun a ha => by cases ha⟩
  · exact ⟨hfield.1, hsome, fun b hb => Option.some.inj hb ▸ hfield.2⟩

end Accepts

end UwbRanging
