import UwbRanging.Config.Environment
import UwbRanging.Config.File
import UwbRanging.Proofs.Decimal.Finite
import UwbRanging.Proofs.Engine.Verdict

namespace UwbRanging

theorem eq_ok_of_toOption {ε α : Type} {x : Except ε α} {a : α} (h : x.toOption = some a) : x = .ok a := by
  cases x with
  | error e => cases h
  | ok b => exact congrArg Except.ok (Option.some.inj h)

-- The ways to come by a configuration.
inductive ConfigSource where
  | text (chars : List Char)
  | file (bytes : Option (List UInt8))
  | environment (env : Environment)
  | overridden (base : RangingConfig) (env : Environment)

namespace ConfigSource

def load : ConfigSource → Except ConfigError RangingConfig
  | text chars => RangingConfig.parse chars
  | file bytes => RangingConfig.load bytes
  | environment env => RangingConfig.ofEnvironment env
  | overridden base env => base.withEnvironment env

-- The configuration as it is written, before it is checked.
def written? : ConfigSource → Option RangingConfig
  | text chars => (Toml.parse chars).bind RangingConfig.ofDocument?
  | file bytes => (bytes.bind Text.decodeUtf8).bind fun chars => (Toml.parse chars).bind RangingConfig.ofDocument?
  | environment env => some (RangingConfig.override {} env)
  | overridden base env => some (base.override env)

variable {source : ConfigSource} {c : RangingConfig}

theorem load_eq_validate (h : source.written? = some c) : source.load = c.validate := by
  cases source with
  | text chars =>
    rw [written?] at h
    rw [load, RangingConfig.parse, h]
  | file bytes =>
    obtain ⟨chars, hchars, hparse⟩ := Option.bind_eq_some_iff.mp h
    rw [load, RangingConfig.load, hchars]
    change RangingConfig.parse chars = _
    rw [RangingConfig.parse, hparse]
  | environment env =>
    cases h
    rfl
  | overridden base env =>
    cases h
    rfl

theorem exists_error (h : source.written? = none) : ∃ error, source.load = .error error := by
  cases source with
  | text chars =>
    rw [written?] at h
    exact ⟨.parse, by rw [load, RangingConfig.parse, h]⟩
  | file bytes =>
    rw [written?, Option.bind_eq_none_iff] at h
    rw [load, RangingConfig.load]
    cases hchars : bytes.bind Text.decodeUtf8 with
    | none => exact ⟨.io, rfl⟩
    | some chars =>
      refine ⟨.parse, ?_⟩
      change RangingConfig.parse chars = _
      rw [RangingConfig.parse, h chars hchars]
  | environment env => cases h
  | overridden base env => cases h

end ConfigSource

namespace SlotRecords

-- The distance that records come to, before it is checked, unless a sum of their times stops the program.
def measured (r : SlotRecords) (c : RangingConfig) (hasListener : Bool) : Option (Except RangingError Float) :=
  ((r.times c.source).estimate c.source.clockHz).map fun estimate => estimate.map fun e =>
    if hasListener then e.threeWay c.speedOfLight c.baseline else e.twoWay c.speedOfLight

theorem exists_of_measured {r : SlotRecords} {c : RangingConfig} {hasListener : Bool} {distance : Float}
    (h : r.measured c hasListener = some (.ok distance)) :
    ∃ e, (r.times c.source).estimate c.source.clockHz = some (.ok e) ∧
      distance = if hasListener then e.threeWay c.speedOfLight c.baseline else e.twoWay c.speedOfLight := by
  obtain ⟨estimate, hestimate, h⟩ := Option.map_eq_some_iff.mp h
  cases estimate with
  | error error => cases h
  | ok e => exact ⟨e, hestimate, (Except.ok.inj h).symm⟩

theorem measured_of_estimate {r : SlotRecords} {c : RangingConfig} {e : TwrEstimate}
    (h : (r.times c.source).estimate c.source.clockHz = some (.ok e)) (hasListener : Bool) :
    r.measured c hasListener =
      some (.ok (if hasListener then e.threeWay c.speedOfLight c.baseline else e.twoWay c.speedOfLight)) := by
  rw [measured, h]
  rfl

theorem outcome_of_not_finite {r : SlotRecords} {c : RangingConfig} {hasListener : Bool} {distance : Float}
    (h : r.measured c hasListener = some (.ok distance)) (hinfinite : distance.isFinite = false) :
    r.outcome c hasListener = some (.error (.outOfRange distance c.minDistance c.maxDistance)) := by
  obtain ⟨e, he, rfl⟩ := exists_of_measured h
  rw [outcome_of_estimate he, RangingConfig.checkDistance, if_pos (by simp [hinfinite])]
  rfl

-- Two devices without any flight time between them, which answer equally fast.
def still : SlotRecords :=
  let record (time : Nat) : TimestampRecord :=
    { device := ⟨0⟩, timestamp := { hires := Hires.ofValue time, info := { rawts := UInt64.ofNat time } } }
  ⟨record 0, record 0, record 1, record 1, record 2, record 2⟩

theorem exists_estimate_still (source : TimestampSource) :
    ∃ e, (still.times source).estimate source.clockHz = some (.ok e) ∧ e.tofSeconds = 0.0 := by
  cases source with
  | raw => exact ⟨_, rfl, by decide⟩
  | hires => exact ⟨_, rfl, by decide⟩

end SlotRecords

namespace RangingConfig

-- What a configuration has to keep to.
structure Sound (c : RangingConfig) : Prop where
  minFinite : c.minDistance.isFinite
  maxFinite : c.maxDistance.isFinite
  bounds : c.minDistance < c.maxDistance
  speedFinite : c.speedOfLight.isFinite
  speedPositive : 0.0 < c.speedOfLight
  wait : c.waitMs ≠ 0

variable {c : RangingConfig}

theorem validate_of_sound (h : c.Sound) : c.validate = .ok c := by
  have hbounds := (Binary64.not_le_iff_lt h.minFinite h.maxFinite).mpr h.bounds
  have hspeed := (Binary64.not_le_iff_lt Binary64.isZero_zero.isFinite h.speedFinite).mpr h.speedPositive
  rw [validate, if_neg (by simp [h.minFinite, h.maxFinite, hbounds]), if_neg (by simp [h.speedFinite, hspeed]),
    if_neg h.wait]

theorem validate_of_not_sound (h : ¬ c.Sound) : ∃ why, c.validate = .error (.invalid why) := by
  unfold validate
  split
  · exact ⟨_, rfl⟩
  next hbounds =>
  split
  · exact ⟨_, rfl⟩
  next hspeed =>
  split
  · exact ⟨_, rfl⟩
  next hwait =>
  simp only [Bool.not_and, Bool.or_eq_true, not_or, Bool.not_eq_true', Bool.not_eq_false, decide_eq_true_eq]
    at hbounds hspeed
  obtain ⟨⟨hmin, hmax⟩, hless⟩ := hbounds
  exact absurd {
    minFinite := hmin
    maxFinite := hmax
    bounds := (Binary64.not_le_iff_lt hmin hmax).mp hless
    speedFinite := hspeed.1
    speedPositive := (Binary64.not_le_iff_lt Binary64.isZero_zero.isFinite hspeed.1).mp hspeed.2
    wait := hwait } h

theorem validate_eq_ok_iff {c' : RangingConfig} : c.validate = .ok c' ↔ c = c' ∧ c.Sound := by
  by_cases h : c.Sound
  · simp [validate_of_sound h, h]
  · obtain ⟨why, hwhy⟩ := validate_of_not_sound h
    simp [hwhy, h]

-- The distance that an attempt comes to can be a number.
def CanMeasure (c : RangingConfig) (hasListener : Bool) : Prop :=
  ∃ r distance, SlotRecords.measured r c hasListener = some (.ok distance) ∧ distance.isFinite

theorem Sound.canMeasure_two (h : c.Sound) : c.CanMeasure false := by
  obtain ⟨e, he, hzero⟩ := SlotRecords.exists_estimate_still c.source
  refine ⟨.still, _, SlotRecords.measured_of_estimate he false, ?_⟩
  rw [if_neg nofun, TwrEstimate.twoWay, hzero]
  exact (Binary64.isZero_zero.mul h.speedFinite).isFinite

theorem Sound.canMeasure_three_iff (h : c.Sound) : c.CanMeasure true ↔ ∀ b ∈ c.baseline, b.isFinite := by
  constructor
  · rintro ⟨r, distance, hmeasured, hfinite⟩ b hb
    obtain ⟨e, -, rfl⟩ := SlotRecords.exists_of_measured hmeasured
    rw [if_pos rfl, TwrEstimate.threeWay, Option.mem_def.mp hb, Option.getD_some] at hfinite
    exact Binary64.isFinite_of_isFinite_sub hfinite
  · intro hbaseline
    obtain ⟨e, he, hzero⟩ := SlotRecords.exists_estimate_still c.source
    have hpath : Binary64.IsZero (2.0 * e.tofSeconds * c.speedOfLight) := by
      have hdouble : Binary64.IsZero (2.0 * 0.0) := ⟨.positive, rfl⟩
      rw [hzero]
      exact hdouble.mul h.speedFinite
    have hknown : (c.baseline.getD 0.0).isFinite := by
      cases hb : c.baseline with
      | none => exact Binary64.isZero_zero.isFinite
      | some b => exact hbaseline b hb
    exact ⟨.still, _, SlotRecords.measured_of_estimate he true, hpath.isFinite_sub hknown⟩

-- A baseline that is no number leaves nothing of any distance.
theorem outcome_of_bad_baseline {b : Float} (hb : c.baseline = some b) (hinfinite : ¬ b.isFinite) {r : SlotRecords}
    {distance : Float} (h : r.measured c true = some (.ok distance)) :
    ¬ distance.isFinite ∧
      r.outcome c true = some (.error (.outOfRange distance c.minDistance c.maxDistance)) := by
  have hdistance : distance.isFinite = false := by
    obtain ⟨e, -, rfl⟩ := SlotRecords.exists_of_measured h
    rw [if_pos rfl, TwrEstimate.threeWay, hb, Option.getD_some]
    exact Bool.eq_false_iff.mpr fun hfinite => hinfinite (Binary64.isFinite_of_isFinite_sub hfinite)
  exact ⟨by rw [hdistance]; exact nofun, SlotRecords.outcome_of_not_finite h hdistance⟩

end RangingConfig

namespace ConfigSource

-- What a configuration keeps to once it is loaded, and what is left open.
structure Accepted (c : RangingConfig) : Prop where
  sound : c.Sound
  two : c.CanMeasure false
  three : c.CanMeasure true ↔ ∀ b ∈ c.baseline, b.isFinite
  -- the baseline is not looked at: any other one would have passed as well
  unchecked : ∀ b, ({ c with baseline := b } : RangingConfig).validate = .ok { c with baseline := b }
  -- with one that is no number, whatever three devices measure is out of range
  bad : ∀ b ∈ c.baseline, ¬ b.isFinite → ∀ (r : SlotRecords) (distance : Float),
    r.measured c true = some (.ok distance) → ¬ distance.isFinite ∧
      r.outcome c true = some (.error (.outOfRange distance c.minDistance c.maxDistance))

-- However a configuration is loaded, its bounds, its speed of light and its wait are checked as a whole. Two devices
-- can then measure distances. Three devices can as long as the baseline, which is not checked, is a number.
theorem load_checks_all_but_baseline (source : ConfigSource) :
    (∀ c, source.load = .ok c ↔ source.written? = some c ∧ c.Sound) ∧
    (∀ c, source.written? = some c → ¬ c.Sound → ∃ why, source.load = .error (.invalid why)) ∧
    ∀ c, source.load = .ok c → Accepted c := by
  have hload (c : RangingConfig) : source.load = .ok c ↔ source.written? = some c ∧ c.Sound := by
    cases hwritten : source.written? with
    | none =>
      obtain ⟨error, herror⟩ := exists_error hwritten
      simp [herror]
    | some written =>
      rw [load_eq_validate hwritten, RangingConfig.validate_eq_ok_iff, Option.some_inj]
      exact and_congr_right fun heq => by rw [heq]
  refine ⟨hload, fun c hwritten hsound => ?_, fun c hc => ?_⟩
  · rw [load_eq_validate hwritten]
    exact RangingConfig.validate_of_not_sound hsound
  · have hsound := ((hload c).mp hc).2
    exact {
      sound := hsound
      two := hsound.canMeasure_two
      three := hsound.canMeasure_three_iff
      unchecked := fun b => RangingConfig.validate_of_sound { hsound with }
      bad := fun b hb hinfinite r distance => RangingConfig.outcome_of_bad_baseline hb hinfinite }

-- A known baseline, and a speed of light that is too large for a number.
theorem load_checks_all_but_baseline_twoVariables :
    (∃ c, (environment [("TAIL_MAX_DISTANCE_M", "40"), ("TAIL_BASELINE_M", "2.5")]).load = .ok c ∧
      c.baseline = some 2.5 ∧ c.CanMeasure false ∧ c.CanMeasure true) ∧
    ∃ why, (environment [("TAIL_SPEED_OF_LIGHT", "1e400")]).load = .error (.invalid why) := by
  obtain ⟨-, -, haccepted⟩ :=
    load_checks_all_but_baseline (environment [("TAIL_MAX_DISTANCE_M", "40"), ("TAIL_BASELINE_M", "2.5")])
  obtain ⟨-, hrefused, -⟩ := load_checks_all_but_baseline (environment [("TAIL_SPEED_OF_LIGHT", "1e400")])
  constructor
  · have hbaseline : (environment [("TAIL_MAX_DISTANCE_M", "40"), ("TAIL_BASELINE_M", "2.5")]).load.toOption.map
        (·.baseline) = some (some 2.5) := by decide +kernel
    obtain ⟨c, hload, hc⟩ := Option.map_eq_some_iff.mp hbaseline
    have hok := eq_ok_of_toOption hload
    refine ⟨c, hok, hc, (haccepted c hok).two, (haccepted c hok).three.mpr fun b hb => ?_⟩
    cases hc.symm.trans hb
    decide
  · exact hrefused _ rfl fun hsound => absurd hsound.speedFinite (by decide +kernel)

-- A file may say that the distance of responder and listener is no number. Three devices then measure nothing.
theorem parse_passes_nanBaseline :
    ∃ c b, RangingConfig.parse "[ranging]\nbaseline_m = nan\n".toList = .ok c ∧ c.baseline = some b ∧ ¬ b.isFinite ∧
      ¬ c.CanMeasure true ∧ ∀ (r : SlotRecords) (distance : Float), r.measured c true = some (.ok distance) →
        r.outcome c true = some (.error (.outOfRange distance c.minDistance c.maxDistance)) := by
  have hbaseline : (RangingConfig.parse "[ranging]\nbaseline_m = nan\n".toList).toOption.map (·.baseline) =
      some (some (0.0 / 0.0)) := by decide +kernel
  have hnan : ¬ (0.0 / 0.0 : Float).isFinite := by decide
  obtain ⟨c, hload, hc⟩ := Option.map_eq_some_iff.mp hbaseline
  refine ⟨c, _, eq_ok_of_toOption hload, hc, hnan, ?_, fun r distance hmeasured =>
    (RangingConfig.outcome_of_bad_baseline hc hnan hmeasured).2⟩
  rintro ⟨r, distance, hmeasured, hfinite⟩
  exact (RangingConfig.outcome_of_bad_baseline hc hnan hmeasured).1 hfinite

end ConfigSource

end UwbRanging
