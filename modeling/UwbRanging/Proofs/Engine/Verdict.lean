import UwbRanging.Proofs.Decimal.NonZero
import UwbRanging.Proofs.Engine.Requests

namespace UwbRanging

theorem wrap128_hires (h : Hires) : TwrTimestamps.wrap128 h.value = h.value := by
  have hlt := h.value_lt
  exact TwrTimestamps.wrap128_of_fits (TwrTimestamps.fits128_iff.mpr (by omega))

theorem TimestampSource.clockHz_ne_zero (source : TimestampSource) : (source.clockHz == 0.0) = false := by
  cases source <;> decide

-- A distance is turned down for its size only.
theorem RangingConfig.checkDistance_ne_degenerate {α : Type} (config : RangingConfig) (distance : Float)
    (f : Float → α) : (config.checkDistance distance).map f ≠ .error .degenerateTiming := by
  unfold checkDistance
  split <;> exact nofun

namespace Slot

-- The exchange that holds a slot's report, out of those of the three blinks.
def exchange (x y z : Option Exchange) : Slot → Option Exchange
  | t1 | t2 => x
  | t3 | t4 => y
  | t5 | t6 => z

-- The device that gives a slot's time, out of those of the two clocks.
def device (p q : Eui64) : Slot → Eui64
  | t1 | t4 | t5 => p
  | t2 | t3 | t6 => q

-- The slot from which a slot's clock is counted.
def origin : Slot → Slot
  | t1 | t4 | t5 => t1
  | t2 | t3 | t6 => t2

-- The record of a slot, if its device has reported.
def record? (x y z : Option Exchange) (p q : Eui64) (slot : Slot) : Option TimestampRecord :=
  (slot.exchange x y z).bind (·.get? (slot.device p q))

-- A slot is the first one without a record.
def FirstLacking (x y z : Option Exchange) (p q : Eui64) (slot : Slot) : Prop :=
  slot.record? x y z p q = none ∧ ∀ earlier ∈ slot.before, (earlier.record? x y z p q).isSome

end Slot

namespace SlotRecords

section Time

variable (r : SlotRecords) (source : TimestampSource)

-- The time of a slot. On the radio counter it is what the count has gone on by since the first slot of its clock.
def time (slot : Slot) : Int :=
  match source with
  | .raw => rawDiff (r.get slot).timestamp.info.rawts (r.get slot.origin).timestamp.info.rawts
  | .hires => (r.get slot).timestamp.hires.value

-- How long an attempt takes on either clock.
def firstSpan : Int := r.time source .t5 - r.time source .t1

def secondSpan : Int := r.time source .t6 - r.time source .t2

theorem times_eq : r.times source = ⟨r.time source .t1, r.time source .t2, r.time source .t3, r.time source .t4,
    r.time source .t5, r.time source .t6⟩ := by
  cases source with
  | raw => simp [times, TwrTimestamps.ofRaw, time, get, Slot.origin, rawDiff_self]
  | hires => simp [times, TwrTimestamps.ofHires, time, get, wrap128_hires]

-- What the times tell, if neither divisor is zero.
def estimate : TwrEstimate where
  tofCounts := (r.times source).numeratorFloat / Binary64.ofInt (r.firstSpan source + r.secondSpan source)
  tofSeconds := (r.times source).numeratorFloat /
    Binary64.ofInt (r.firstSpan source + r.secondSpan source) / source.clockHz
  clockPpm := Binary64.ofInt (r.secondSpan source - r.firstSpan source) / Binary64.ofInt (r.secondSpan source) * 1e6
  roundTripSeconds := Binary64.ofInt (r.time source .t4 - r.time source .t1) / source.clockHz

theorem estimate_times : (r.times source).estimate source.clockHz =
    if (r.times source).Overflows then none
    else if r.firstSpan source + r.secondSpan source = 0 ∨ r.secondSpan source = 0 then
      some (.error .degenerateTiming)
    else some (.ok (r.estimate source)) := by
  have htimes := r.times_eq source
  have hden : (r.times source).denominator = r.firstSpan source + r.secondSpan source := by
    rw [htimes]
    rfl
  have hspan : (r.times source).t62 = r.secondSpan source := by
    rw [htimes]
    rfl
  have hlead : (r.times source).t62 - (r.times source).t51 = r.secondSpan source - r.firstSpan source := by
    rw [htimes]
    rfl
  have hround : (r.times source).t41 = r.time source .t4 - r.time source .t1 := by
    rw [htimes]
    rfl
  rw [TwrTimestamps.estimate_of_sums (r.times_near source).1.sums_fit, hden, hlead, hspan, hround]
  rfl

end Time

-- What six records come to.
structure Judged (r : SlotRecords) (config : RangingConfig) (hasListener : Bool)
    (result : Option (Except RangingError TwrOutcome)) : Prop where
  -- their own times are used, each in its place
  times : r.times config.source = ⟨r.time config.source .t1, r.time config.source .t2, r.time config.source .t3,
    r.time config.source .t4, r.time config.source .t5, r.time config.source .t6⟩
  -- times of which the difference of the two products is too wide stop the program
  stopped : result = none ↔ (r.times config.source).Overflows
  degenerate : ¬ (r.times config.source).Overflows → (result = some (.error .degenerateTiming) ↔
    r.firstSpan config.source + r.secondSpan config.source = 0 ∨ r.secondSpan config.source = 0)
  -- otherwise nothing is divided by zero, and the distance decides
  regular : ¬ (r.times config.source).Overflows →
    ¬ (r.firstSpan config.source + r.secondSpan config.source = 0 ∨ r.secondSpan config.source = 0) →
    (Binary64.ofInt (r.firstSpan config.source + r.secondSpan config.source) == 0.0) = false ∧
    (Binary64.ofInt (r.secondSpan config.source) == 0.0) = false ∧ (config.source.clockHz == 0.0) = false ∧
    let e := r.estimate config.source
    let distance := if hasListener then e.threeWay config.speedOfLight config.baseline
      else e.twoWay config.speedOfLight
    result = some ((config.checkDistance distance).map fun distance =>
      ⟨distance, e.tofSeconds, e.clockPpm, e.roundTripSeconds, r.diagnostics config.prf⟩)

theorem outcome_of_estimate {r : SlotRecords} {config : RangingConfig} {e : TwrEstimate}
    (h : (r.times config.source).estimate config.source.clockHz = some (.ok e)) (hasListener : Bool) :
    r.outcome config hasListener =
      some ((config.checkDistance (if hasListener then e.threeWay config.speedOfLight config.baseline
        else e.twoWay config.speedOfLight)).map fun distance =>
          ⟨distance, e.tofSeconds, e.clockPpm, e.roundTripSeconds, r.diagnostics config.prf⟩) := by
  rw [outcome, h]
  change some (config.checkDistance _ >>= fun _ => _) = _
  cases config.checkDistance _ <;> rfl

theorem outcome_judged (r : SlotRecords) (config : RangingConfig) (hasListener : Bool) :
    r.Judged config hasListener (r.outcome config hasListener) := by
  have hestimate := r.estimate_times config.source
  have hstopped : r.outcome config hasListener = none ↔ (r.times config.source).Overflows := outcome_eq_none_iff
  by_cases hover : (r.times config.source).Overflows
  · exact ⟨r.times_eq _, hstopped, absurd hover, absurd hover⟩
  rw [if_neg hover] at hestimate
  by_cases hzero : r.firstSpan config.source + r.secondSpan config.source = 0 ∨ r.secondSpan config.source = 0
  · rw [if_pos hzero] at hestimate
    have hresult : r.outcome config hasListener = some (.error .degenerateTiming) := by
      rw [outcome, hestimate]
      rfl
    exact ⟨r.times_eq _, hstopped, fun _ => iff_of_true hresult hzero, fun _ h => absurd hzero h⟩
  · rw [if_neg hzero] at hestimate
    have hresult := outcome_of_estimate hestimate hasListener
    refine ⟨r.times_eq _, hstopped, fun _ => iff_of_false (fun hdegenerate => ?_) hzero,
      fun _ _ => ⟨?_, ?_, ?_, hresult⟩⟩
    · rw [hresult] at hdegenerate
      exact config.checkDistance_ne_degenerate _ _ (Option.some.inj hdegenerate)
    · exact Binary64.ofInt_ne_zero fun h => hzero (.inl h)
    · exact Binary64.ofInt_ne_zero fun h => hzero (.inr h)
    · exact config.source.clockHz_ne_zero

end SlotRecords

section Exchanges

variable (x y z : Option Exchange) (p q : Eui64)

-- What an attempt fails with for want of a slot's record: nobody has reported on its blink, or its own device has not.
def Slot.lack (waited : Nat) (slot : Slot) : RangingError :=
  if (slot.exchange x y z).all (·.isEmpty) then .timeout waited else .missingTimestamp slot (slot.device p q)

-- What three exchanges come to, in which the devices of the two clocks are looked for.
structure Verdict (config : RangingConfig) (hasListener : Bool) (result : Option (Except RangingError TwrOutcome)) :
    Prop where
  -- if a slot has no record, the first such slot decides, whatever there is for the others
  lacking : (∃ slot : Slot, slot.record? x y z p q = none) → ∃ slot : Slot, slot.FirstLacking x y z p q ∧
    result = some (.error (slot.lack x y z p q config.waitNanos))
  -- otherwise the six records are judged
  complete : (∀ slot : Slot, (slot.record? x y z p q).isSome) → ∃ r : SlotRecords,
    (∀ slot : Slot, slot.record? x y z p q = some (r.get slot)) ∧ r.Judged config hasListener result

variable {x y z p q}

theorem SlotRecords.ofSlot_eq (waited : Nat) (slot : Slot) : ofSlot [x, y, z] p q waited slot =
    match slot.record? x y z p q with
    | some r => .ok r
    | none => .error (slot.lack x y z p q waited) := by
  have hexchange : ([x, y, z][slot.blink]?).join = slot.exchange x y z := by cases slot <;> rfl
  have hdevice : (if slot.onFirstClock then p else q) = slot.device p q := by cases slot <;> rfl
  simp only [ofSlot, hexchange, hdevice, Slot.record?, Slot.lack]
  cases slot.exchange x y z with
  | none => rfl
  | some e =>
    rw [Option.bind_some, Option.all_some]
    dsimp only
    cases e.get? (slot.device p q) with
    | some r => rfl
    | none => exact (apply_ite Except.error _ _ _).symm

theorem SlotRecords.record?_of_ofSlot {waited : Nat} {slot : Slot} {r : TimestampRecord}
    (h : ofSlot [x, y, z] p q waited slot = .ok r) : slot.record? x y z p q = some r := by
  rw [ofSlot_eq] at h
  split at h
  · rename_i hrecord
    rwa [← Except.ok.inj h]
  · cases h

theorem SlotRecords.record?_of_ofSlot_error {waited : Nat} {slot : Slot} {e : RangingError}
    (h : ofSlot [x, y, z] p q waited slot = .error e) :
    slot.record? x y z p q = none ∧ e = slot.lack x y z p q waited := by
  rw [ofSlot_eq] at h
  split at h
  · cases h
  · rename_i hrecord
    exact ⟨hrecord, (Except.error.inj h).symm⟩

variable (x y z p q) in
theorem RangingConfig.verdict_conclude (config : RangingConfig) (hasListener : Bool) :
    Verdict x y z p q config hasListener (config.conclude [x, y, z] p q hasListener) := by
  unfold conclude
  rcases SlotRecords.collect_cases [x, y, z] p q config.waitNanos with
    ⟨records, hcollect, hall⟩ | ⟨slot, e, hcollect, herror, hearlier⟩
  · have hrecords (slot : Slot) := SlotRecords.record?_of_ofSlot (hall slot)
    rw [hcollect]
    refine ⟨?_, fun _ => ⟨records, hrecords, records.outcome_judged config hasListener⟩⟩
    rintro ⟨slot, hnone⟩
    cases hnone.symm.trans (hrecords slot)
  · obtain ⟨hnone, rfl⟩ := SlotRecords.record?_of_ofSlot_error herror
    have hbefore : ∀ earlier ∈ slot.before, (earlier.record? x y z p q).isSome := fun earlier hmem => by
      obtain ⟨r, hr⟩ := hearlier earlier hmem
      exact Option.isSome_of_eq_some (SlotRecords.record?_of_ofSlot hr)
    rw [hcollect]
    refine ⟨fun _ => ⟨slot, ⟨hnone, hbefore⟩, rfl⟩, fun hall => ?_⟩
    have hsome := hall slot
    rw [hnone] at hsome
    cases hsome

end Exchanges

-- The result of three exchanges follows a fixed order: the first slot without a record, times that stop the program,
-- degenerate times, the distance. An attempt of which every request goes out has the result of the exchanges that it
-- takes.
theorem RangingConfig.perform_verdict (config : RangingConfig) :
    (∀ x y z p q hasListener,
      Verdict x y z p q config hasListener (config.conclude [x, y, z] p q hasListener)) ∧
    ∀ (table : ExchangeTable) (a : Attempt),
      (∃ e, .error e ∈ a.answers ∧ (config.perform table a.trio a.script).result = some (.error (.transport e))) ∨
      ∃ x y z, (takeThree (a.waited table) (a.issued table).ids a.script).1 = [x, y, z] ∧
        Verdict x y z a.trio.first a.trio.reference config a.trio.listener.isSome
          (config.perform table a.trio a.script).result := by
  refine ⟨fun x y z p q => config.verdict_conclude x y z p q, fun table a => ?_⟩
  obtain ⟨-, -, herror, -⟩ := a.issued_eq table
  cases hrefusal : Issued.refusal a.answers with
  | some e =>
    rw [hrefusal] at herror
    exact .inl ⟨e, (Issued.refusal_eq_some_iff _ _).mp hrefusal, (a.perform_of_refused table config herror).1⟩
  | none =>
    rw [hrefusal] at herror
    obtain ⟨x, y, z, htaken, -⟩ := a.exists_taken table hrefusal
    refine .inr ⟨some x, some y, some z, htaken, ?_⟩
    rw [(a.perform_of_sent table config herror).1, htaken]
    exact config.verdict_conclude (some x) (some y) (some z) a.trio.first a.trio.reference _

-- All six slots have their records and neither divisor is zero, and still nothing comes of them: neither that the
-- timing is degenerate nor anything about a distance.
theorem RangingConfig.conclude_stops :
    let record := fun (device : UInt64) (time : Nat) => (Delivery.timed 0 device time).record
    let x : Exchange := ⟨1, [record 1 0, record 2 (2 ^ 63)]⟩
    let y : Exchange := ⟨2, [record 1 (2 ^ 63), record 2 0]⟩
    let z : Exchange := ⟨3, [record 1 (2 ^ 64 + 2 ^ 63), record 2 (2 ^ 64 - 1)]⟩
    let r : SlotRecords := ⟨record 1 0, record 2 (2 ^ 63), record 2 0, record 1 (2 ^ 63), record 1 (2 ^ 64 + 2 ^ 63),
      record 2 (2 ^ 64 - 1)⟩
    (∀ slot : Slot, slot.record? x y z ⟨1⟩ ⟨2⟩ = some (r.get slot)) ∧
      r.firstSpan .hires + r.secondSpan .hires = 2 ^ 65 - 1 ∧ r.secondSpan .hires = 2 ^ 63 - 1 ∧
      RangingConfig.conclude {} [x, y, z] ⟨1⟩ ⟨2⟩ false = none := by
  intro record x y z r
  have hrecords (slot : Slot) : slot.record? x y z ⟨1⟩ ⟨2⟩ = some (r.get slot) := by cases slot <;> rfl
  have hcollect : SlotRecords.collect [x, y, z] ⟨1⟩ ⟨2⟩ ({} : RangingConfig).waitNanos = .ok r := rfl
  have hover : (r.times ({} : RangingConfig).source).Overflows := by decide
  refine ⟨hrecords, by decide, by decide, ?_⟩
  rw [conclude, hcollect]
  exact SlotRecords.outcome_eq_none_iff.mpr hover

end UwbRanging
