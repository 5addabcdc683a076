import UwbRanging.Proofs.Engine.Hearing
import UwbRanging.Proofs.Twr.Range

namespace UwbRanging

-- The slots that come before this one.
def Slot.before (slot : Slot) : List Slot := Slot.all.takeWhile (· ≠ slot)

theorem Slot.before_total (slot slot' : Slot) : slot = slot' ∨ slot ∈ slot'.before ∨ slot' ∈ slot.before := by
  cases slot <;> cases slot' <;> decide

theorem Slot.blink_lt (slot : Slot) : slot.blink < 3 := by cases slot <;> decide

-- The device whose report a slot takes.
def Trio.deviceOf (t : Trio) (slot : Slot) : Eui64 := if slot.onFirstClock then t.first else t.reference

theorem Trio.deviceOf_mem_reporters (t : Trio) (slot : Slot) : t.deviceOf slot ∈ t.reporters := by
  unfold deviceOf
  split
  · exact List.mem_cons_self
  · exact List.mem_cons_of_mem _ List.mem_cons_self

namespace TwrTimestamps

variable {t : TwrTimestamps} {e : RangingError}

-- Times are turned down only if an interval is empty.
theorem estimate_error {clockHz : Float} (hsums : ∀ n ∈ t.sums, fits128 n = true)
    (h : t.estimate clockHz = some (.error e)) : e = .degenerateTiming := by
  rw [estimate_of_sums hsums] at h
  split at h
  · cases h
  · split at h <;> cases h
    rfl

end TwrTimestamps

theorem RangingConfig.checkDistance_error {config : RangingConfig} {distance : Float} {e : RangingError}
    (h : config.checkDistance distance = .error e) :
    e = .outOfRange distance config.minDistance config.maxDistance := by
  unfold checkDistance at h
  split at h
  · exact (Except.error.inj h).symm
  · cases h

namespace SlotRecords

def get (r : SlotRecords) : Slot → TimestampRecord
  | .t1 => r.t1
  | .t2 => r.t2
  | .t3 => r.t3
  | .t4 => r.t4
  | .t5 => r.t5
  | .t6 => r.t6

section Collect

variable (exchanges : List (Option Exchange)) (p q : Eui64) (waited : Nat)

-- Either every slot has its record, or the first one without a record decides.
theorem collect_cases :
    (∃ records, collect exchanges p q waited = .ok records ∧
      ∀ slot, ofSlot exchanges p q waited slot = .ok (records.get slot)) ∨
    ∃ slot e, collect exchanges p q waited = .error e ∧ ofSlot exchanges p q waited slot = .error e ∧
      ∀ earlier ∈ slot.before, ∃ record, ofSlot exchanges p q waited earlier = .ok record := by
  -- each slot is read only if all slots before it have their records
  cases h1 : ofSlot exchanges p q waited .t1 with
  | error e => exact .inr ⟨.t1, e, by simp [collect, *, bind, Except.bind], h1, nofun⟩
  | ok r1 => ?_
  cases h2 : ofSlot exchanges p q waited .t2 with
  | error e => exact .inr ⟨.t2, e, by simp [collect, *, bind, Except.bind], h2, by simp [Slot.before, Slot.all, *]⟩
  | ok r2 => ?_
  cases h3 : ofSlot exchanges p q waited .t3 with
  | error e => exact .inr ⟨.t3, e, by simp [collect, *, bind, Except.bind], h3, by simp [Slot.before, Slot.all, *]⟩
  | ok r3 => ?_
  cases h4 : ofSlot exchanges p q waited .t4 with
  | error e => exact .inr ⟨.t4, e, by simp [collect, *, bind, Except.bind], h4, by simp [Slot.before, Slot.all, *]⟩
  | ok r4 => ?_
  cases h5 : ofSlot exchanges p q waited .t5 with
  | error e => exact .inr ⟨.t5, e, by simp [collect, *, bind, Except.bind], h5, by simp [Slot.before, Slot.all, *]⟩
  | ok r5 => ?_
  cases h6 : ofSlot exchanges p q waited .t6 with
  | error e => exact .inr ⟨.t6, e, by simp [collect, *, bind, Except.bind], h6, by simp [Slot.before, Slot.all, *]⟩
  | ok r6 =>
    refine .inl ⟨⟨r1, r2, r3, r4, r5, r6⟩, by simp [collect, *, bind, Except.bind, pure, Except.pure], fun slot => ?_⟩
    cases slot <;> assumption

end Collect

-- Complete records come to no result exactly if the difference of the two products of their times is too wide.
theorem outcome_eq_none_iff {r : SlotRecords} {config : RangingConfig} {hasListener : Bool} :
    r.outcome config hasListener = none ↔ (r.times config.source).Overflows :=
  Option.map_eq_none_iff.trans ((r.times_near config.source).1.carried.stops _)

-- Complete records are turned down for their times or for the distance that they give.
theorem outcome_error {r : SlotRecords} {config : RangingConfig} {hasListener : Bool} {e : RangingError}
    (h : r.outcome config hasListener = some (.error e)) :
    e = .degenerateTiming ∨ ∃ distance, e = .outOfRange distance config.minDistance config.maxDistance := by
  obtain ⟨estimate, hestimate, h⟩ := Option.map_eq_some_iff.mp h
  cases estimate with
  | error e' =>
    cases h
    exact .inl (TwrTimestamps.estimate_error (r.times_near config.source).1.sums_fit hestimate)
  | ok estimate =>
    obtain ⟨distance, hcheck⟩ : ∃ distance, config.checkDistance distance = .error e := by
      simp only [bind, Except.bind] at h
      split at h
      · next e' hcheck => exact ⟨_, Except.error.inj h ▸ hcheck⟩
      · cases h
    exact .inr ⟨distance, RangingConfig.checkDistance_error hcheck⟩

end SlotRecords

namespace Attempt

variable (config : RangingConfig) {table : ExchangeTable} {a : Attempt} {reports : Nat → List Delivery} {slot : Slot}

-- The device of a slot reports on the slot's blink.
def Reported (a : Attempt) (reports : Nat → List Delivery) (slot : Slot) : Prop :=
  ∃ d ∈ reports slot.blink, d.record.device = a.trio.deviceOf slot

-- The records of the exchanges that an attempt takes.
def collected (config : RangingConfig) (table : ExchangeTable) (a : Attempt) : Except RangingError SlotRecords :=
  SlotRecords.collect (takeThree (a.waited table) (a.issued table).ids a.script).1 a.trio.first a.trio.reference
    config.waitNanos

-- An attempt has all six slots. They hold what their devices have reported on their blinks, and the result comes
-- from them.
def HasAllSlots (config : RangingConfig) (table : ExchangeTable) (a : Attempt) (reports : Nat → List Delivery) : Prop :=
  ∃ records, a.collected config table = .ok records ∧
    (config.perform table a.trio a.script).result = records.outcome config a.trio.listener.isSome ∧
    ∀ slot, (records.get slot).device = a.trio.deviceOf slot ∧
      ⟨table.next.nth slot.blink, records.get slot⟩ ∈ reports slot.blink

theorem perform_of_collected (hsent : Issued.refusal a.answers = none) {records : SlotRecords}
    (hcollect : a.collected config table = .ok records) :
    (config.perform table a.trio a.script).result = records.outcome config a.trio.listener.isSome := by
  rw [collected] at hcollect
  rw [(a.perform_of_sent table config (a.issued_of_sent table hsent).1).1, conclude, RangingConfig.conclude, hcollect]

theorem perform_of_lacking (hsent : Issued.refusal a.answers = none) {e : RangingError}
    (hcollect : a.collected config table = .error e) :
    (config.perform table a.trio a.script).result = some (.error e) := by
  rw [collected] at hcollect
  rw [(a.perform_of_sent table config (a.issued_of_sent table hsent).1).1, conclude, RangingConfig.conclude, hcollect]

-- All blinks go out, and the records that are there for all slots have times for which a sum stops the program.
def Stops (config : RangingConfig) (table : ExchangeTable) (a : Attempt) : Prop :=
  Issued.refusal a.answers = none ∧
    ∃ records, a.collected config table = .ok records ∧ (records.times config.source).Overflows

theorem perform_eq_none_iff : (config.perform table a.trio a.script).result = none ↔ a.Stops config table := by
  cases hrefusal : Issued.refusal a.answers with
  | some e =>
    obtain ⟨-, -, herror, -⟩ := a.issued_eq table
    rw [(a.perform_of_refused table config (herror.trans hrefusal)).1]
    refine iff_of_false nofun fun hstops => ?_
    cases hrefusal.symm.trans hstops.1
  | none =>
    cases hcollect : a.collected config table with
    | error e =>
      rw [perform_of_lacking config hrefusal hcollect]
      refine iff_of_false nofun fun hstops => ?_
      obtain ⟨-, records, hrecords, -⟩ := hstops
      cases hcollect.symm.trans hrecords
    | ok records =>
      rw [perform_of_collected config hrefusal hcollect, SlotRecords.outcome_eq_none_iff]
      refine ⟨fun hover => ⟨hrefusal, records, hcollect, hover⟩, fun hstops => ?_⟩
      obtain ⟨-, records', hrecords, hover⟩ := hstops
      cases hcollect.symm.trans hrecords
      exact hover

namespace Hears

variable (h : a.Hears table.next reports) (hsent : Issued.refusal a.answers = none)
include h hsent

-- No exchange is empty, so a slot that nobody has reported for is missing and not late.
theorem ofSlot_cases (waited : Nat) (slot : Slot) :
    let record := SlotRecords.ofSlot (takeThree (a.waited table) (a.issued table).ids a.script).1 a.trio.first
      a.trio.reference waited slot
    (∃ r, record = .ok r ∧ r.device = a.trio.deviceOf slot ∧ ⟨table.next.nth slot.blink, r⟩ ∈ reports slot.blink) ∨
      (¬ a.Reported reports slot ∧ record = .error (.missingTimestamp slot (a.trio.deviceOf slot))) := by
  intro record
  obtain ⟨x, hx, hheard, hget⟩ := h.exists_exchange hsent slot.blink_lt
  specialize hget _ (a.trio.deviceOf_mem_reporters slot)
  have hrecord : record = (x.get? (a.trio.deviceOf slot)).elim
      (.error (.missingTimestamp slot (a.trio.deviceOf slot))) .ok := by
    unfold Trio.deviceOf
    simp only [record, SlotRecords.ofSlot, hx, Option.join_some, hheard, Bool.false_eq_true, if_false]
    cases x.get? (if slot.onFirstClock then a.trio.first else a.trio.reference) <;> rfl
  rw [hrecord]
  cases hfound : x.get? (a.trio.deviceOf slot) with
  | some r =>
    obtain ⟨hmem, hdevice⟩ := (hget r).mp hfound
    exact .inl ⟨r, rfl, hdevice, hmem⟩
  | none =>
    refine .inr ⟨?_, rfl⟩
    rintro ⟨d, hd, hdevice⟩
    have hmem : (⟨table.next.nth slot.blink, d.record⟩ : Delivery) ∈ reports slot.blink := by
      rwa [← h.ids _ slot.blink_lt d hd]
    rw [(hget d.record).mpr ⟨hmem, hdevice⟩] at hfound
    cases hfound

-- Either the devices of all slots have reported, or the first one that has not decides.
theorem result_cases :
    (a.HasAllSlots config table reports ∧ ∀ slot, a.Reported reports slot) ∨
    ∃ slot,
      (config.perform table a.trio a.script).result = some (.error (.missingTimestamp slot (a.trio.deviceOf slot))) ∧
      ¬ a.Reported reports slot ∧ ∀ earlier ∈ slot.before, a.Reported reports earlier := by
  have hslot := h.ofSlot_cases hsent config.waitNanos
  have hreported {slot : Slot} {r : TimestampRecord} (hr : SlotRecords.ofSlot
      (takeThree (a.waited table) (a.issued table).ids a.script).1 a.trio.first a.trio.reference config.waitNanos slot =
        .ok r) : r.device = a.trio.deviceOf slot ∧ ⟨table.next.nth slot.blink, r⟩ ∈ reports slot.blink := by
    rcases hslot slot with ⟨r', hr', hrecord⟩ | ⟨-, herror⟩
    · cases hr.symm.trans hr'
      exact hrecord
    · cases hr.symm.trans herror
  rcases SlotRecords.collect_cases (takeThree (a.waited table) (a.issued table).ids a.script).1 a.trio.first
    a.trio.reference config.waitNanos with ⟨records, hcollect, hall⟩ | ⟨slot, e, hcollect, herror, hearlier⟩
  · have hrecords (slot : Slot) := hreported (hall slot)
    exact .inl ⟨⟨records, hcollect, perform_of_collected config hsent hcollect, hrecords⟩,
      fun slot => ⟨_, (hrecords slot).2, (hrecords slot).1⟩⟩
  · refine .inr ⟨slot, ?_⟩
    rcases hslot slot with ⟨r, hr, -⟩ | ⟨hnone, hmissing⟩
    · cases herror.symm.trans hr
    · cases herror.symm.trans hmissing
      refine ⟨perform_of_lacking config hsent hcollect, hnone, fun earlier hmem => ?_⟩
      obtain ⟨r, hr⟩ := hearlier earlier hmem
      exact ⟨_, (hreported hr).2, (hreported hr).1⟩

theorem hasAllSlots_iff : a.HasAllSlots config table reports ↔ ∀ slot, a.Reported reports slot := by
  constructor
  · rintro ⟨records, -, -, hrecords⟩ slot
    exact ⟨_, (hrecords slot).2, (hrecords slot).1⟩
  · intro hall
    rcases h.result_cases config hsent with ⟨hslots, -⟩ | ⟨slot, -, hnone, -⟩
    · exact hslots
    · exact absurd (hall slot) hnone

theorem result_of_missing (hnone : ¬ a.Reported reports slot)
    (hearlier : ∀ earlier ∈ slot.before, a.Reported reports earlier) :
    (config.perform table a.trio a.script).result = some (.error (.missingTimestamp slot (a.trio.deviceOf slot))) := by
  rcases h.result_cases config hsent with ⟨-, hall⟩ | ⟨first, hresult, hfirst, hbefore⟩
  · exact absurd (hall slot) hnone
  · rcases slot.before_total first with rfl | hmem | hmem
    · exact hresult
    · exact absurd (hbefore slot hmem) hnone
    · exact absurd (hearlier first hmem) hfirst

theorem result_ne_timeout (waited : Nat) :
    (config.perform table a.trio a.script).result ≠ some (.error (.timeout waited)) := by
  intro htimeout
  rcases h.result_cases config hsent with ⟨⟨records, -, hresult, -⟩, -⟩ | ⟨slot, hresult, -⟩
  · rcases SlotRecords.outcome_error (hresult.symm.trans htimeout) with he | ⟨distance, he⟩ <;> cases he
  · cases hresult.symm.trans htimeout

end Hears

end Attempt

end UwbRanging
