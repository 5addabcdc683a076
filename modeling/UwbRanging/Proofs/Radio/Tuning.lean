import UwbRanging.Proofs.Radio.Register
import UwbRanging.Radio.Tuning

namespace UwbRanging

namespace DeviceAttr

variable {attr : DeviceAttr} {value w : AttrValue}

-- But for a name, a radio takes nothing from a value but the number that it spells.
theorem settled?_congr (hattr : attr ≠ .profile) (h : value.asInt = w.asInt) :
    attr.settled? value = attr.settled? w := by
  cases attr <;> first | exact absurd rfl hattr | simp only [settled?, h]

theorem exists_of_filter_map {p : Int64 → Bool} {f : Int64 → AttrValue} {o : Option Int64}
    (h : (o.filter p).map f = some w) : ∃ n, o = some n ∧ p n = true ∧ f n = w := by
  obtain ⟨n, hn, hw⟩ := Option.map_eq_some_iff.mp h
  obtain ⟨ho, hp⟩ := Option.filter_eq_some_iff.mp hn
  exact ⟨n, ho, hp, hw⟩

theorem asInt_register (width : Nat) {size : Nat} (hsize : size ≤ UInt32.size) {n : Int64}
    (hn : inRegister size n = true) : (AttrValue.text ("0x" ++ Hex.padded width n.toInt.toNat)).asInt = some n := by
  have hlt := toNat_lt_of_inRegister hn
  have hword : UInt32.size < 2 ^ 63 := by decide
  rw [AttrValue.asInt_padded width (by omega), ofNat_of_inRegister hn]

-- What a radio makes of a number.
def effective (attr : DeviceAttr) (n : Int64) : Int64 := if attr = .smartPower then if n = 0 then 0 else 1 else n

-- The form in which a radio holds a value spells the same number.
theorem asInt_settled (hattr : attr ≠ .profile) (h : attr.settled? value = some w) :
    ∃ n, value.asInt = some n ∧ w.asInt = some (attr.effective n) := by
  cases attr
  case profile => exact absurd rfl hattr
  case smartPower | snrThreshold | fprThreshold | noiseThreshold =>
    obtain ⟨n, hn, rfl⟩ := Option.map_eq_some_iff.mp h
    exact ⟨n, hn, rfl⟩
  case antd =>
    obtain ⟨n, hn, hfits, rfl⟩ := exists_of_filter_map h
    exact ⟨n, hn, asInt_register 4 (by decide) hfits⟩
  case txPower =>
    obtain ⟨n, hn, hfits, rfl⟩ := exists_of_filter_map h
    exact ⟨n, hn, asInt_register 8 (Nat.le_refl _) hfits⟩
  all_goals
    obtain ⟨n, hn, -, rfl⟩ := exists_of_filter_map h
    exact ⟨n, hn, rfl⟩

-- An attribute that is restricted to a few numbers holds one of them.
theorem exists_allowed {allowed : List Int64} (hallowed : attr.allowed? = some allowed)
    (h : attr.settled? value = some w) : ∃ n ∈ allowed, w = .int n := by
  cases attr <;> cases hallowed
  all_goals
    obtain ⟨n, -, hn, rfl⟩ := exists_of_filter_map h
    exact ⟨n, List.contains_iff_mem.mp hn, rfl⟩

-- A value in the form in which a radio holds it stays as it is.
theorem settled?_settled (h : attr.settled? value = some w) : attr.settled? w = some w := by
  by_cases hname : attr = .profile
  · subst hname
    cases h
    rfl
  obtain ⟨n, hn, hw⟩ := asInt_settled hname h
  by_cases hswitch : attr = .smartPower
  · subst hswitch
    rw [settled?, hn] at h
    cases h
    by_cases hzero : n = 0 <;> simp [settled?, AttrValue.asInt, hzero]
  · rw [effective, if_neg hswitch] at hw
    rw [settled?_congr hname (hw.trans hn.symm), h]

end DeviceAttr

namespace RadioConfig

open DeviceAttr

variable {r r' : RadioConfig}

theorem ofNat_inj {n m : Nat} (hn : n < UInt32.size) (hm : m < UInt32.size) (h : Int64.ofNat n = Int64.ofNat m) :
    n = m := by
  have hword : UInt32.size < 2 ^ 63 := by decide
  have hvalue := congrArg Int64.toInt h
  rw [Int64.toInt_ofNat_of_lt (by omega), Int64.toInt_ofNat_of_lt (by omega)] at hvalue
  exact Int.ofNat.inj hvalue

theorem byte_inj {a b : UInt8} (h : AttrValue.int (Int64.ofNat a.toNat) = .int (Int64.ofNat b.toNat)) : a = b := by
  have hbyte : 2 ^ 8 < UInt32.size := by decide
  exact UInt8.toNat_inj.mp
    (ofNat_inj (Nat.lt_trans a.toNat_lt hbyte) (Nat.lt_trans b.toNat_lt hbyte) (AttrValue.int.inj h))

theorem word_inj {a b : UInt32} (h : AttrValue.int (Int64.ofNat a.toNat) = .int (Int64.ofNat b.toNat)) : a = b :=
  UInt32.toNat_inj.mp (ofNat_inj a.toNat_lt b.toNat_lt (AttrValue.int.inj h))

theorem text_inj (width : Nat) {n m : Nat} (hn : n < UInt32.size) (hm : m < UInt32.size)
    (h : AttrValue.text ("0x" ++ Hex.padded width n) = .text ("0x" ++ Hex.padded width m)) : n = m := by
  have hword : UInt32.size < 2 ^ 63 := by decide
  have hvalue := congrArg AttrValue.asInt h
  rw [AttrValue.asInt_padded width (by omega), AttrValue.asInt_padded width (by omega)] at hvalue
  exact ofNat_inj hn hm (Option.some.inj hvalue)

theorem switch_inj {a b : Bool} (h : AttrValue.int (if a then 1 else 0) = .int (if b then 1 else 0)) : a = b := by
  cases a <;> cases b <;> first | rfl | exact absurd h (by decide)

-- The settings are what is read of them, attribute by attribute.
theorem ext_get (h : ∀ attr, r.get attr = r'.get attr) : r = r' := by
  have hantd : r.antd = r'.antd := by
    have hhalf : 2 ^ 16 < UInt32.size := by decide
    exact UInt16.toNat_inj.mp
      (text_inj 4 (Nat.lt_trans r.antd.toNat_lt hhalf) (Nat.lt_trans r'.antd.toNat_lt hhalf) (h .antd))
  have hpower : r.txPower = r'.txPower :=
    UInt32.toNat_inj.mp (text_inj 8 r.txPower.toNat_lt r'.txPower.toNat_lt (h .txPower))
  cases r
  cases r'
  rw [mk.injEq]
  exact ⟨byte_inj (h .channel), word_inj (h .prf), byte_inj (h .pcode), word_inj (h .txpsr), word_inj (h .rate),
    switch_inj (h .smartPower), hpower, byte_inj (h .xtalt), hantd, AttrValue.text.inj (h .profile),
    AttrValue.int.inj (h .snrThreshold), AttrValue.int.inj (h .fprThreshold), AttrValue.int.inj (h .noiseThreshold)⟩

variable {attr : DeviceAttr} {value w : AttrValue}

theorem settled?_of_set (h : r.set attr value = .ok (w, r')) : attr.settled? value = some w := by
  rw [← answer_set_eq (r := r), h]
  rfl

theorem exists_set (h : attr.settled? value = some w) : ∃ r', r.set attr value = .ok (w, r') := by
  rw [← answer_set_eq (r := r)] at h
  cases hset : r.set attr value with
  | error refusal =>
    rw [hset] at h
    cases h
  | ok answer =>
    rw [hset] at h
    exact ⟨answer.2, by rw [← Option.some.inj h]⟩

-- The value in effect can be set again, and this changes nothing.
theorem set_again (h : r.set attr value = .ok (w, r')) : r'.set attr w = .ok (w, r') := by
  obtain ⟨r'', hset⟩ := exists_set (r := r') (settled?_settled (settled?_of_set h))
  have hkept : r'' = r' := by
    refine ext_get fun other => ?_
    rw [get_of_set hset other]
    by_cases hother : other = attr
    · rw [if_pos hother, get_of_set h other, if_pos hother]
    · rw [if_neg hother]
  rw [hset, hkept]

end RadioConfig

namespace Tuning

open RadioConfig (narrow)

variable {attr : DeviceAttr} {value : AttrValue} {r : RadioConfig}

theorem putNumber_eq (refusal : InvalidValue) (put : RadioConfig → Int64 → RadioConfig) :
    putNumber refusal value put r = (value.asInt.map (put r)).elim (.error refusal, r) fun r' => (.ok (), r') := by
  unfold putNumber
  cases value.asInt <;> rfl

theorem putRegister_eq (refusal : InvalidValue) (size : Nat) (put : RadioConfig → Nat → RadioConfig) :
    putRegister refusal value size put r =
      ((value.asInt.bind (narrow size)).map (put r)).elim (.error refusal, r) fun r' => (.ok (), r') := by
  unfold putRegister
  cases value.asInt with
  | none => rfl
  | some n =>
    change (require refusal (narrow size n) >>= fun n => modify fun r => put r n) r = _
    rw [Option.bind_some]
    cases narrow size n <;> rfl

theorem write_eq : write attr value r =
    (r.store attr value).elim (.error ⟨attr, value.toText⟩, r) fun r' => (.ok (), r') := by
  cases attr
  case profile => rfl
  case smartPower | snrThreshold | fprThreshold | noiseThreshold => exact putNumber_eq _ _
  all_goals exact putRegister_eq _ _ _

-- Setting an attribute in place is setting it in a copy that takes the place of the settings if nothing is refused.
theorem assign_eq : assign attr value r =
    match r.set attr value with
    | .ok (w, r') => (.ok w, r')
    | .error e => (.error e, r) := by
  unfold RadioConfig.set assign
  cases attr.validate value with
  | error e => rfl
  | ok v =>
    change (write attr v >>= fun _ => return (← get).get attr) r = _
    simp only [bind, ExceptT.bind, ExceptT.mk, StateT.bind, Except.bind, write_eq]
    cases r.store attr v <;> rfl

end Tuning

namespace RadioConfig

open DeviceAttr
open Tuning (assign assignAll)

-- The attributes that are restricted to a few numbers have one of them each.
def Restricted (r : RadioConfig) : Prop :=
  ∀ attr allowed, attr.allowed? = some allowed → ∃ n ∈ allowed, r.get attr = .int n

theorem restricted_default : ({} : RadioConfig).Restricted := by
  intro attr allowed h
  cases attr <;> cases h
  case channel => exact ⟨7, by decide, rfl⟩
  case prf => exact ⟨64, by decide, rfl⟩
  case txpsr => exact ⟨256, by decide, rfl⟩
  case rate => exact ⟨6800, by decide, rfl⟩

variable {r r' : RadioConfig} {attr : DeviceAttr} {value w : AttrValue}

theorem Restricted.of_set (hr : r.Restricted) (h : r.set attr value = .ok (w, r')) : r'.Restricted := by
  intro other allowed hallowed
  rw [get_of_set h other]
  by_cases hother : other = attr
  · subst hother
    rw [if_pos rfl]
    exact exists_allowed hallowed (settled?_of_set h)
  · rw [if_neg hother]
    exact hr other allowed hallowed

theorem Restricted.assign (hr : r.Restricted) (attr : DeviceAttr) (value : AttrValue) :
    (assign attr value r).2.Restricted := by
  rw [Tuning.assign_eq]
  cases h : r.set attr value with
  | error e => exact hr
  | ok answer => exact hr.of_set h

theorem Restricted.assignAll (hr : r.Restricted) (changes : List (DeviceAttr × AttrValue)) :
    (assignAll changes r).Restricted := by
  induction changes generalizing r with
  | nil => exact hr
  | cons change rest ih => exact ih (hr.assign change.1 change.2)

-- What setting an attribute comes to if it is not refused.
structure Assigned (r : RadioConfig) (attr : DeviceAttr) (value w : AttrValue) (r' : RadioConfig) : Prop where
  inPlace : assign attr value r = (.ok w, r')
  held : r'.get attr = w
  others : ∀ other, other ≠ attr → r'.get other = r.get other
  again : r'.set attr w = .ok (w, r')
  number : attr ≠ .profile → attr ≠ .smartPower → ∃ n, value.asInt = some n ∧ w.asInt = some n
  switch : attr = .smartPower → ∃ n, value.asInt = some n ∧ w.asInt = some (if n = 0 then 0 else 1)
  name : attr = .profile → w = .text value.toText

theorem assigned_of_set (h : r.set attr value = .ok (w, r')) : r.Assigned attr value w r' where
  inPlace := by rw [Tuning.assign_eq, h]
  held := by rw [get_of_set h, if_pos rfl]
  others other hother := by rw [get_of_set h, if_neg hother]
  again := set_again h
  number hname hswitch := by
    obtain ⟨n, hn, hw⟩ := asInt_settled hname (settled?_of_set h)
    rw [effective, if_neg hswitch] at hw
    exact ⟨n, hn, hw⟩
  switch hswitch := by
    subst hswitch
    have hname : DeviceAttr.smartPower ≠ .profile := by decide
    exact asInt_settled hname (settled?_of_set h)
  name hname := by
    subst hname
    exact (Option.some.inj (settled?_of_set h)).symm

-- An attribute is set as a whole or not at all, and no other one with it. What is then in effect can be set again
-- and spells what was asked for, and no number outside of its few gets into a restricted attribute.
theorem set_atomic (r : RadioConfig) :
    (∀ attr value e, r.set attr value = .error e → assign attr value r = (.error e, r)) ∧
    (∀ attr value w r', r.set attr value = .ok (w, r') → r.Assigned attr value w r') ∧
    (r.Restricted → ∀ changes, (assignAll changes r).Restricted) := by
  refine ⟨fun attr value e h => ?_, fun attr value w r' => assigned_of_set, Restricted.assignAll⟩
  rw [Tuning.assign_eq, h]

theorem set_atomic_delivered :
    let r : RadioConfig := {}
    let changes : List (DeviceAttr × AttrValue) :=
      [(.antd, .text " 0X40fF "), (.channel, .int 6), (.smartPower, .int (-3)), (.xtalt, .int 300)]
    r.Restricted ∧ (assignAll changes r).Restricted ∧ (assignAll changes r).get .antd = .text "0x40ff" ∧
      (assignAll changes r).get .smartPower = .int 1 ∧ assign .xtalt (.int 300) r = (.error ⟨.xtalt, "300"⟩, r) ∧
      assign .smartPower (.int (-3)) r = (.ok (.int 1), { smartPower := true }) := by
  intro r changes
  obtain ⟨hrefused, hdone, hrestricted⟩ := set_atomic r
  exact ⟨restricted_default, hrestricted restricted_default changes, by decide, by decide,
    hrefused .xtalt (.int 300) _ (by decide), (hdone .smartPower (.int (-3)) _ _ rfl).inPlace⟩

end RadioConfig

end UwbRanging
