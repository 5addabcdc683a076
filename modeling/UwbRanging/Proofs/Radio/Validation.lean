import UwbRanging.Proofs.Radio.Tuning

namespace UwbRanging

namespace DeviceAttr

-- Whether the values of an attribute are looked at before they are sent.
def isChecked (attr : DeviceAttr) : Bool := attr.allowed?.isSome || attr == .txPower

variable {attr : DeviceAttr} {value w : AttrValue} {refusal : InvalidValue}

-- A value of a checked attribute is brought into the form in which a radio holds it, if one can.
theorem validate_of_checked (h : attr.isChecked = true) : (attr.validate value).toOption = attr.settled? value := by
  cases attr
  case channel | prf | txpsr | rate => exact validate_choice rfl
  case txPower => exact validate_txPower
  all_goals cases h

theorem validate_of_unchecked (h : attr.isChecked = false) : attr.validate value = .ok value := by
  cases attr
  case channel | prf | txpsr | rate | txPower => cases h
  all_goals rfl

theorem isOk_validate : (attr.validate value).isOk = (!attr.isChecked || (attr.settled? value).isSome) := by
  cases hchecked : attr.isChecked with
  | false => rw [validate_of_unchecked hchecked]; rfl
  | true =>
    rw [← validate_of_checked hchecked]
    cases attr.validate value <;> rfl

theorem settled?_of_validate (hchecked : attr.isChecked = true) (h : attr.validate value = .ok w) :
    attr.settled? value = some w := by
  rw [← validate_of_checked hchecked, h]
  rfl

-- A refusal names the attribute and the value as it was given.
theorem eq_of_refused (h : attr.validate value = .error refusal) : refusal = ⟨attr, value.toText⟩ := by
  unfold validate at h
  dsimp only at h
  repeat' split at h
  all_goals first | exact (Except.error.inj h).symm | cases h

theorem validate_eq_error_iff : attr.validate value = .error refusal ↔
    attr.isChecked = true ∧ attr.settled? value = none ∧ refusal = ⟨attr, value.toText⟩ := by
  constructor
  · intro h
    have hfailed : (attr.validate value).isOk = false := by rw [h]; rfl
    rw [isOk_validate, Bool.or_eq_false_iff] at hfailed
    exact ⟨by simpa using hfailed.1, by simpa using hfailed.2, eq_of_refused h⟩
  · rintro ⟨hchecked, hvalue, rfl⟩
    cases h : attr.validate value with
    | error refusal => rw [eq_of_refused h]
    | ok w => cases hvalue.symm.trans (settled?_of_validate hchecked h)

-- A value that has passed the check passes it again, and stays as it then is.
theorem validate_validated (h : attr.validate value = .ok w) : attr.validate w = .ok w := by
  cases hchecked : attr.isChecked with
  | false => exact validate_of_unchecked hchecked
  | true =>
    have hagain := settled?_settled (settled?_of_validate hchecked h)
    cases hw : attr.validate w with
    | error refusal => cases hagain.symm.trans (validate_eq_error_iff.mp hw).2.1
    | ok w' => rw [Option.some.inj (hagain.symm.trans (settled?_of_validate hchecked hw))]

end DeviceAttr

namespace RadioConfig

open DeviceAttr

variable {r : RadioConfig} {attr : DeviceAttr} {value w : AttrValue} {refusal : InvalidValue}

-- A radio makes the same of a value before and after the check.
theorem set_validated (h : attr.validate value = .ok w) : r.set attr w = r.set attr value := by
  rw [set, set, h, validate_validated h]

-- What only the register refuses has passed the check as it was, so that a refusal always gives the value as given.
theorem eq_of_set_refused (h : r.set attr value = .error refusal) : refusal = ⟨attr, value.toText⟩ := by
  unfold set at h
  cases hvalid : attr.validate value with
  | error refusal' =>
    rw [hvalid] at h
    rw [← eq_of_refused hvalid, Except.error.inj h]
  | ok w =>
    cases hchecked : attr.isChecked with
    | true =>
      obtain ⟨r', hset⟩ := exists_set (r := r) (settled?_of_validate hchecked hvalid)
      cases h.symm.trans hset
    | false =>
      obtain rfl : value = w := Except.ok.inj ((validate_of_unchecked hchecked).symm.trans hvalid)
      simp only [hvalid, bind, Except.bind] at h
      cases hstore : r.store attr value with
      | some r' =>
        rw [hstore] at h
        cases h
      | none =>
        rw [hstore] at h
        exact (Except.error.inj h).symm

theorem set_of_unsettled (h : attr.settled? value = none) : r.set attr value = .error ⟨attr, value.toText⟩ := by
  cases hset : r.set attr value with
  | error refusal => rw [eq_of_set_refused hset]
  | ok answer => cases h.symm.trans (settled?_of_set hset)

-- Whether a radio takes a value does not depend on its settings.
theorem isOk_set : (r.set attr value).isOk = (attr.settled? value).isSome := by
  rw [← answer_set_eq (r := r)]
  cases r.set attr value <;> rfl

end RadioConfig

theorem Tuning.assign_validated {r : RadioConfig} {attr : DeviceAttr} {value w : AttrValue}
    (h : attr.validate value = .ok w) : assign attr w r = assign attr value r := by
  rw [assign_eq, assign_eq, RadioConfig.set_validated h]

end UwbRanging
