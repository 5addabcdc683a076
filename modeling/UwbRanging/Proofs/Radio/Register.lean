import Mathlib.Algebra.Group.Nat.Defs
import Mathlib.Data.List.Basic
import UwbRanging.Proofs.Text.Blank
import UwbRanging.Radio.Config

namespace UwbRanging

namespace AttrValue

-- The number that hexadecimal digits spell, the highest digit first.
def digitsValue? (cs : List Char) : Option Nat :=
  (cs.mapM hexDigit?).map fun ds => ds.foldl (fun n d => 16 * n + d) 0

theorem hexDigit?_digitChar : ∀ d < 16, hexDigit? (Nat.digitChar d) = some d := by decide

theorem digitsValue?_concat {cs : List Char} {n d : Nat} (hcs : digitsValue? cs = some n) (hd : d < 16) :
    digitsValue? (cs ++ [Nat.digitChar d]) = some (16 * n + d) := by
  obtain ⟨ds, hds, hn⟩ := Option.map_eq_some_iff.mp hcs
  rw [digitsValue?, List.mapM_append, hds, List.mapM_cons, hexDigit?_digitChar d hd]
  simp [List.foldl_append, hn]

theorem digitsValue?_toDigits (n : Nat) : digitsValue? (Nat.toDigits 16 n) = some n := by
  induction n using Nat.strongRecOn with
  | ind n ih =>
    by_cases hn : n < 16
    · rw [Nat.toDigits_of_lt_base hn]
      have hnone : digitsValue? [] = some 0 := rfl
      have hdigit := digitsValue?_concat hnone hn
      rwa [List.nil_append, Nat.mul_zero, Nat.zero_add] at hdigit
    · have hlow : n % 16 < 16 := Nat.mod_lt n (by decide)
      have hdigits :=
        Nat.toDigits_append_toDigits (b := 16) (n := n / 16) (d := n % 16) (by decide) (by omega) hlow
      rw [Nat.toDigits_of_lt_base hlow, Nat.div_add_mod] at hdigits
      rw [← hdigits, digitsValue?_concat (ih (n / 16) (by omega)) hlow, Nat.div_add_mod]

theorem digitsValue?_zeros (count : Nat) (cs : List Char) :
    digitsValue? (List.replicate count '0' ++ cs) = digitsValue? cs := by
  induction count with
  | zero => rfl
  | succ count ih =>
    rw [← ih, List.replicate_succ, List.cons_append, digitsValue?, digitsValue?, List.mapM_cons]
    have hzero : hexDigit? '0' = some 0 := by decide
    rw [hzero]
    cases List.mapM hexDigit? (List.replicate count '0' ++ cs) <;> rfl

theorem digitsValue?_padded (width n : Nat) : digitsValue? (Hex.padded width n).toList = some n := by
  rw [Hex.padded, String.toList_ofList, digitsValue?_zeros]
  exact digitsValue?_toDigits n

theorem isBlank_of_hexDigit? {c : Char} {d : Nat} (hc : hexDigit? c = some d) : Text.isBlank c = false := by
  unfold hexDigit? Hex.digitValue? at hc
  have hrange : 0x30 ≤ c.toNat ∧ c.toNat ≤ 0x66 := by
    split at hc
    case isFalse => cases hc
    case isTrue hascii =>
      have hbyte : (UInt8.ofNat c.toNat).toNat = c.toNat :=
        UInt8.toNat_ofNat_of_lt' (Nat.lt_trans hascii (by decide))
      simp only [UInt8.le_iff_toNat_le, hbyte] at hc
      split at hc
      · rename_i h
        exact ⟨h.1, Nat.le_trans h.2 (by decide)⟩
      split at hc
      · rename_i h
        exact ⟨Nat.le_trans (by decide) h.1, h.2⟩
      split at hc
      · rename_i h
        exact ⟨Nat.le_trans (by decide) h.1, Nat.le_trans h.2 (by decide)⟩
      · cases hc
  simp [Text.isBlank]
  omega

theorem exists_hexDigit {cs : List Char} {n : Nat} (hcs : digitsValue? cs = some n) {c : Char} (hc : c ∈ cs) :
    ∃ d, hexDigit? c = some d := by
  obtain ⟨front, back, rfl⟩ := List.append_of_mem hc
  cases hdigit : hexDigit? c with
  | some d => exact ⟨d, rfl⟩
  | none => simp [digitsValue?, hdigit] at hcs

theorem readHex_of_digits {cs : List Char} {n : Nat} (hcs : digitsValue? cs = some n) (hne : cs ≠ []) :
    readHex cs = some (n : Int) := by
  have hsign : Decimal.spanSign cs = (false, cs) := by
    unfold Decimal.spanSign
    split
    · obtain ⟨d, hd⟩ := exists_hexDigit hcs List.mem_cons_self
      exact absurd hd (by decide +revert)
    · obtain ⟨d, hd⟩ := exists_hexDigit hcs List.mem_cons_self
      exact absurd hd (by decide +revert)
    · rfl
  obtain ⟨ds, hds, hn⟩ := Option.map_eq_some_iff.mp hcs
  rw [readHex, hsign]
  simp [hne, hds, hn]

-- The text of a register spells the number that it holds.
theorem asInt_padded (width : Nat) {n : Nat} (hn : n < 2 ^ 63) :
    (text ("0x" ++ Hex.padded width n)).asInt = some (Int64.ofNat n) := by
  have hvalue := digitsValue?_padded width n
  have hne : (Hex.padded width n).toList ≠ [] := by
    rw [Hex.padded, String.toList_ofList]
    exact List.append_ne_nil_of_right_ne_nil _ Nat.toDigits_ne_nil
  have hchars : ("0x" ++ Hex.padded width n).toList = '0' :: 'x' :: (Hex.padded width n).toList :=
    String.toList_append
  have htrim :
      Text.trimChars ('0' :: 'x' :: (Hex.padded width n).toList) = '0' :: 'x' :: (Hex.padded width n).toList := by
    refine Text.trimChars_eq_self fun c hc => ?_
    rcases List.mem_cons.mp hc with rfl | hc
    · decide
    rcases List.mem_cons.mp hc with rfl | hc
    · decide
    · obtain ⟨d, hd⟩ := exists_hexDigit hvalue hc
      exact isBlank_of_hexDigit? hd
  rw [asInt, hchars, htrim, readInteger, readHex_of_digits hvalue hne, Option.bind_some, narrow64, if_pos]
  · rfl
  · have hmin : Int64.minValue.toInt = -2 ^ 63 := by decide
    have hmax : Int64.maxValue.toInt = 2 ^ 63 - 1 := by decide
    omega

end AttrValue

namespace DeviceAttr

-- The numbers of a register of so many values.
def inRegister (size : Nat) (n : Int64) : Bool := 0 ≤ n.toInt && n.toInt < size

-- The form in which a radio holds a value of an attribute, if it can hold it at all: one of the numbers that the
-- attribute is restricted to, a number that fits the register, a switch as zero or one, or a name.
def settled? (attr : DeviceAttr) (value : AttrValue) : Option AttrValue :=
  let chosen := (value.asInt.filter fun n => (attr.allowed?.getD []).contains n).map AttrValue.int
  match attr with
  | channel => chosen
  | prf => chosen
  | txpsr => chosen
  | rate => chosen
  | pcode => (value.asInt.filter (inRegister UInt8.size)).map .int
  | xtalt => (value.asInt.filter (inRegister UInt8.size)).map .int
  | antd => (value.asInt.filter (inRegister UInt16.size)).map fun n => .text ("0x" ++ Hex.padded 4 n.toInt.toNat)
  | txPower => (value.asInt.filter (inRegister UInt32.size)).map fun n => .text (registerText n.toInt.toNat)
  | smartPower => value.asInt.map fun n => .int (if n = 0 then 0 else 1)
  | snrThreshold => value.asInt.map .int
  | fprThreshold => value.asInt.map .int
  | noiseThreshold => value.asInt.map .int
  | profile => some (.text value.toText)

variable {n : Int64}

theorem inRegister_iff {size : Nat} : inRegister size n = true ↔ 0 ≤ n.toInt ∧ n.toInt < size := by
  simp [inRegister]

theorem ofNat_of_inRegister {size : Nat} (h : inRegister size n = true) : Int64.ofNat n.toInt.toNat = n := by
  rw [← Int64.ofInt_eq_ofNat, Int.toNat_of_nonneg (inRegister_iff.mp h).1, Int64.ofInt_toInt]

theorem toNat_lt_of_inRegister {size : Nat} (h : inRegister size n = true) : n.toInt.toNat < size := by
  have hrange := inRegister_iff.mp h
  omega

theorem ofNat_byte (h : inRegister UInt8.size n = true) : Int64.ofNat (UInt8.ofNat n.toInt.toNat).toNat = n := by
  rw [UInt8.toNat_ofNat_of_lt' (toNat_lt_of_inRegister h), ofNat_of_inRegister h]

variable {attr : DeviceAttr} {value : AttrValue}

theorem validate_choice {allowed : List Int64} (h : attr.allowed? = some allowed) : (attr.validate value).toOption =
    (value.asInt.filter fun n => (attr.allowed?.getD []).contains n).map .int := by
  rw [validate, h, Option.getD_some]
  cases value.asInt with
  | none => rfl
  | some n => by_cases hn : n ∈ allowed <;> simp [Except.toOption, Option.filter_some, hn]

theorem validate_txPower : (txPower.validate value).toOption =
    (value.asInt.filter (inRegister UInt32.size)).map fun n => .text (registerText n.toInt.toNat) := by
  simp only [validate, allowed?, if_true]
  cases value.asInt with
  | none => rfl
  | some n =>
    by_cases hn : 0 ≤ n.toInt ∧ n.toInt < UInt32.size
    · simp only [if_pos hn, Option.filter_some, inRegister_iff.mpr hn, if_true]
      rfl
    · simp only [if_neg hn, Option.filter_some, mt inRegister_iff.mp hn]
      rfl

end DeviceAttr

namespace RadioConfig

open DeviceAttr

variable {r r' : RadioConfig} {attr : DeviceAttr} {value : AttrValue}

theorem bind_narrow (size : Nat) (o : Option Int64) :
    o.bind (narrow size) = (o.filter (inRegister size)).map fun n => n.toInt.toNat := by
  cases o with
  | none => rfl
  | some n =>
    rw [Option.bind_some, narrow, Option.filter_some]
    by_cases h : 0 ≤ n.toInt ∧ n.toInt < size
    · rw [if_pos h, if_pos (inRegister_iff.mpr h)]
      rfl
    · rw [if_neg h, if_neg (mt inRegister_iff.mp h)]
      rfl

theorem map_filter_congr {β : Type} {p : Int64 → Bool} {f g : Int64 → β} (o : Option Int64)
    (h : ∀ n, p n = true → f n = g n) : (o.filter p).map f = (o.filter p).map g :=
  Option.map_congr fun n hn => h n (Option.mem_filter_iff.mp hn).2

-- An attribute does not touch the registers of the others.
theorem get_store_of_ne (h : r.store attr value = some r') {other : DeviceAttr} (hne : other ≠ attr) :
    r'.get other = r.get other := by
  cases attr <;> simp only [store, Option.map_eq_some_iff, Option.some.injEq] at h
  case profile =>
    subst h
    cases other <;> first | rfl | exact absurd rfl hne
  all_goals
    obtain ⟨_, -, rfl⟩ := h
    cases other <;> first | rfl | exact absurd rfl hne

-- What setting an attribute answers is read from the register.
theorem answer_set : (r.set attr value).toOption.map Prod.fst =
    (attr.validate value).toOption.bind fun v => (r.store attr v).map fun r' => r'.get attr := by
  unfold set
  cases attr.validate value with
  | error e => rfl
  | ok v =>
    simp only [bind, Except.bind]
    cases hstore : r.store attr v <;>
      simp [Except.toOption, hstore, throw, throwThe, MonadExceptOf.throw, pure, Except.pure]

theorem bind_filter {β γ : Type} {p : Int64 → Bool} {f : Int64 → β} {g : β → Option γ} {f' : Int64 → γ}
    (o : Option Int64) (h : ∀ n, p n = true → g (f n) = some (f' n)) :
    ((o.filter p).map f).bind g = (o.filter p).map f' := by
  cases ho : o.filter p with
  | none => rfl
  | some n => exact h n (Option.mem_filter_iff.mp ho).2

-- The registers of the restricted attributes hold all their numbers.
theorem answer_choice {allowed : List Int64} (h : attr.allowed? = some allowed) :
    (r.set attr value).toOption.map Prod.fst =
      (value.asInt.filter fun n => (attr.allowed?.getD []).contains n).map .int := by
  have hstore : ∀ n ∈ allowed, (r.store attr (.int n)).map (fun r' => r'.get attr) = some (.int n) := by
    cases attr <;> cases h <;> simp only [List.forall_mem_cons] <;> and_intros <;> first | rfl | nofun
  rw [answer_set, validate_choice h]
  refine bind_filter _ fun n hn => hstore n ?_
  rwa [h, Option.getD_some, List.contains_iff_mem] at hn

-- A register that takes any number that fits it.
theorem answer_register {size : Nat} {put : Nat → RadioConfig} {f : Int64 → AttrValue}
    (hvalid : attr.validate value = .ok value)
    (hstore : r.store attr value = (value.asInt.bind (narrow size)).map put)
    (hget : ∀ n, inRegister size n = true → (put n.toInt.toNat).get attr = f n) :
    (r.set attr value).toOption.map Prod.fst = (value.asInt.filter (inRegister size)).map f := by
  rw [answer_set, hvalid]
  change (r.store attr value).map _ = _
  rw [hstore, bind_narrow, Option.map_map, Option.map_map]
  exact map_filter_congr _ hget

-- A register that takes any number at all.
theorem answer_number {put : Int64 → RadioConfig} (hvalid : attr.validate value = .ok value)
    (hstore : r.store attr value = value.asInt.map put) :
    (r.set attr value).toOption.map Prod.fst = value.asInt.map fun n => (put n).get attr := by
  rw [answer_set, hvalid]
  change (r.store attr value).map _ = _
  rw [hstore, Option.map_map]
  rfl

-- A radio takes a value that it can hold, and says in which form it then holds it.
theorem answer_set_eq : (r.set attr value).toOption.map Prod.fst = attr.settled? value := by
  cases attr
  case channel => exact answer_choice rfl
  case prf => exact answer_choice rfl
  case txpsr => exact answer_choice rfl
  case rate => exact answer_choice rfl
  case pcode => exact answer_register rfl rfl fun n hn => congrArg AttrValue.int (ofNat_byte hn)
  case xtalt => exact answer_register rfl rfl fun n hn => congrArg AttrValue.int (ofNat_byte hn)
  case antd =>
    exact answer_register rfl rfl fun n hn =>
      congrArg (fun k => AttrValue.text ("0x" ++ Hex.padded 4 k)) (UInt16.toNat_ofNat_of_lt' (toNat_lt_of_inRegister hn))
  case txPower =>
    rw [answer_set, validate_txPower]
    refine bind_filter _ fun n hn => ?_
    have hspelt : (AttrValue.text (registerText n.toInt.toNat)).asInt = some (Int64.ofNat n.toInt.toNat) :=
      AttrValue.asInt_padded 8 (Nat.lt_trans (toNat_lt_of_inRegister hn) (by decide))
    rw [ofNat_of_inRegister hn] at hspelt
    simp only [store, hspelt, bind_narrow, Option.filter_some, hn, if_true, Option.map_some, get,
      UInt32.toNat_ofNat_of_lt' (toNat_lt_of_inRegister hn)]
  case smartPower =>
    rw [answer_number rfl rfl, settled?]
    congr 1
    funext n
    by_cases hn : n = 0 <;> simp [get, hn]
  case snrThreshold =>
    rw [answer_number rfl rfl]
    rfl
  case fprThreshold =>
    rw [answer_number rfl rfl]
    rfl
  case noiseThreshold =>
    rw [answer_number rfl rfl]
    rfl
  case profile => rfl

-- Setting an attribute that the radio takes changes this attribute and no other.
theorem get_of_set {v : AttrValue} (h : r.set attr value = .ok (v, r')) (other : DeviceAttr) :
    r'.get other = if other = attr then v else r.get other := by
  unfold set at h
  cases hvalid : attr.validate value with
  | error e =>
    rw [hvalid] at h
    cases h
  | ok value' =>
    simp only [hvalid, bind, Except.bind] at h
    cases hstore : r.store attr value' with
    | none =>
      rw [hstore] at h
      cases h
    | some after =>
      rw [hstore] at h
      cases h
      by_cases hother : other = attr
      · rw [if_pos hother, hother]
      · rw [if_neg hother, get_store_of_ne hstore hother]

end RadioConfig

end UwbRanging
