import UwbRanging.Proofs.Simulation.Bystander
import UwbRanging.Simulation.Session

namespace UwbRanging

-- Out of reach.
def Point.far (p : Point) : Point := { p with x := p.x + 500.0 }

def SimRadio.far (r : SimRadio) : SimRadio := r.moved Point.far

namespace Scenario

section ChangeLast

variable {α : Type} (f : α → α)

theorem modify_concat (others : List α) (last : α) :
    (others ++ [last]).modify others.length f = others ++ [f last] := by
  induction others with
  | nil => rfl
  | cons a rest ih => rw [List.cons_append, List.length_cons, List.modify_succ_cons, ih, List.cons_append]

theorem changeLast_concat (others : List α) (last : α) : changeLast f (others ++ [last]) = others ++ [f last] := by
  induction others with
  | nil => rfl
  | cons a rest ih =>
    have hne : rest ++ [last] ≠ [] := List.append_ne_nil_of_right_ne_nil rest (List.cons_ne_nil last [])
    obtain ⟨b, tail, heq⟩ := List.exists_cons_of_ne_nil hne
    rw [List.cons_append, heq, changeLast, ← heq, ih, List.cons_append]
    exact nofun

end ChangeLast

def far : Scenario := { active := [.farPlacement] }

theorem preset?_nominal : preset? "nominal" = some {} := rfl

theorem preset?_far : preset? "far" = some far := rfl

theorem apply_far (scene : Scene) : far.apply scene = { scene with radios := changeLast SimRadio.far scene.radios } :=
  rfl

end Scenario

namespace Session

-- How many radios a run ranges with, and which ones.
def partyCount (threeDevice : Bool) : Nat := if threeDevice then 3 else 2

def parties (radios : List SimRadio) (threeDevice : Bool) : List SimRadio := radios.take (partyCount threeDevice)

theorem groundTruth_parties (radios : List SimRadio) (threeDevice : Bool) (baseline : Option Float) :
    groundTruth (parties radios threeDevice) threeDevice baseline = groundTruth radios threeDevice baseline := by
  match radios, threeDevice with
  | [], true | [], false => rfl
  | [_], true | [_], false => rfl
  | [_, _], true | [_, _], false => rfl
  | _ :: _ :: _ :: _, true | _ :: _ :: _ :: _, false => rfl

-- The trio of a run is made up of its parties.
theorem exists_trio {euis : List Eui64} {threeDevice : Bool} (h : partyCount threeDevice ≤ euis.length) :
    ∃ trio, trio? euis threeDevice = some trio ∧ trio.devices = euis.take (partyCount threeDevice) := by
  match euis, threeDevice, h with
  | _ :: _ :: _, false, _ => exact ⟨_, rfl, rfl⟩
  | _ :: _ :: _ :: _, true, _ => exact ⟨_, rfl, rfl⟩

-- The configuration of a run before its scenario.
def configured (file : Option (List UInt8)) (env : Environment) : Except RunError Setup := do
  let setup ← match file.bind Text.decodeUtf8 with
    | none => pure Setup.builtIn
    | some text => (Setup.parse? text).elim (throw .setup) pure
  let ranging ← (setup.ranging.withEnvironment env).mapError .ranging
  return { setup with ranging := ranging }

section Run

variable {o : Options} {file : Option (List UInt8)} {env : Environment} {s : Setup} {scenario : Scenario}

theorem setup_of_preset (h : Scenario.preset? o.scenario = some scenario) : setup o file env =
    (configured file env).map fun s => { s with scene := scenario.apply s.scene } := by
  have hlast (s : Setup) : ((s.ranging.withEnvironment env).mapError RunError.ranging >>= fun ranging =>
        pure { s with ranging := ranging, scene := scenario.apply s.scene }) =
      ((s.ranging.withEnvironment env).mapError RunError.ranging >>= fun ranging =>
        pure { s with ranging := ranging }).map fun s => { s with scene := scenario.apply s.scene } := by
    cases s.ranging.withEnvironment env <;> rfl
  rw [setup, configured, h]
  cases file.bind Text.decodeUtf8 with
  | none => exact hlast Setup.builtIn
  | some text =>
    dsimp only
    cases Setup.parse? text with
    | none => rfl
    | some s => exact hlast s

theorem setup_nominal : setup { o with scenario := "nominal" } file env = configured file env := by
  rw [setup_of_preset Scenario.preset?_nominal]
  cases configured file env <;> rfl

theorem setup_far (h : setup { o with scenario := "nominal" } file env = .ok s) :
    setup { o with scenario := "far" } file env = .ok { s with scene := Scenario.far.apply s.scene } := by
  rw [setup_of_preset Scenario.preset?_far, ← setup_nominal (o := o), h]
  rfl

end Run

-- A batch that is about to start.
def starting (s : Setup) (e : Endpoint Nat) (now : Nat) (gen : StdGen) : Batch :=
  { config := s.ranging
    endpoint := e
    air := ⟨Air.ofScene s.scene s.ranging.speedOfLight, now, gen⟩
    timeline := .startAt now }

-- Who takes part in a run and what it starts from is a matter of the radios' EUIs.
theorem exists_start {euis : List Eui64} {threeDevice : Bool} (hcount : partyCount threeDevice ≤ euis.length)
    (callTimeoutMs : UInt64) (gen : StdGen) :
    ∃ (trio : Trio) (e : Endpoint Nat) (now : Nat) (gen' : StdGen),
      trio.devices = euis.take (partyCount threeDevice) ∧
      (∀ device place, e.addressOf device = .ok place → euis[place]? = some device) ∧
      ∀ (o : Options) (file : Option (List UInt8)) (env : Environment) (s : Setup), setup o file env = .ok s →
        o.threeDevice = threeDevice → s.scene.radios.map (·.eui) = euis → s.callTimeoutMs = callTimeoutMs →
        run o file env gen = checkPorts o.port s.scene.radios.length >>= fun _ =>
          conclude ((starting s e now gen').run trio o.count)
            (groundTruth s.scene.radios threeDevice s.ranging.baseline) := by
  obtain ⟨trio, htrio, hdevices⟩ := exists_trio hcount
  obtain ⟨e, now, gen', hknown, hconnect⟩ := Batch.exists_connectAll euis
    { callTimeout := RangingConfig.nanosOfMillis callTimeoutMs } rfl 0 gen
  refine ⟨trio, e, now, gen', hdevices, hknown, fun o file env s hsetup hthree heuis htimeout => ?_⟩
  have hlength : s.scene.radios.length = euis.length := by rw [← heuis, List.length_map]
  have hneeded : ¬ s.scene.radios.length < if o.threeDevice then 3 else 2 := by
    rw [hlength, hthree]
    exact Nat.not_lt.mpr hcount
  have hconnected := hconnect (Air.ofScene s.scene s.ranging.speedOfLight)
    ((Air.euis_ofScene s.scene s.ranging.speedOfLight).trans heuis)
  unfold run
  rw [hsetup]
  dsimp only [bind, Except.bind]
  rw [if_neg hneeded]
  cases checkPorts o.port s.scene.radios.length with
  | error error => rfl
  | ok _ =>
    dsimp only [ExceptT.run]
    rw [hlength, htimeout, hconnected]
    dsimp only [Except.mapError]
    rw [hthree, htrio]
    rfl

-- What the far preset makes of the configuration of a run: the last radio is out of reach, and all else is as it was.
structure FarFrom (before after : Setup) (threeDevice : Bool) (others : List SimRadio) (last : SimRadio) : Prop where
  near : before.scene.radios = others ++ [last]
  far : after.scene.radios = others ++ [last.far]
  noise : after.scene.noise = before.scene.noise
  ranging : after.ranging = before.ranging
  callTimeoutMs : after.callTimeoutMs = before.callTimeoutMs
  -- with just as many radios as it takes, the last one is a party
  party : others.length + 1 = partyCount threeDevice →
    parties before.scene.radios threeDevice = others ++ [last] ∧
    parties after.scene.radios threeDevice = others ++ [last.far]
  -- with more than that it is not, and what is to be measured stays the same
  bystander : partyCount threeDevice ≤ others.length →
    parties after.scene.radios threeDevice = parties before.scene.radios threeDevice ∧
    ∀ baseline, groundTruth after.scene.radios threeDevice baseline =
      groundTruth before.scene.radios threeDevice baseline

theorem farFrom_apply (s : Setup) (threeDevice : Bool) {others : List SimRadio} {last : SimRadio}
    (h : s.scene.radios = others ++ [last]) :
    FarFrom s { s with scene := Scenario.far.apply s.scene } threeDevice others last := by
  have hfar : (Scenario.far.apply s.scene).radios = others ++ [last.far] := by
    rw [Scenario.apply_far, h, Scenario.changeLast_concat]
  have hparties (hmore : partyCount threeDevice ≤ others.length) :
      parties (Scenario.far.apply s.scene).radios threeDevice = parties s.scene.radios threeDevice := by
    rw [hfar, h, parties, parties, List.take_append_of_le_length hmore, List.take_append_of_le_length hmore]
  exact {
    near := h
    far := hfar
    noise := rfl
    ranging := rfl
    callTimeoutMs := rfl
    party := fun hcount => by
      constructor
      · rw [h, parties, ← hcount, List.take_of_length_le (by simp)]
      · rw [hfar, parties, ← hcount, List.take_of_length_le (by simp)]
    bystander := fun hmore => ⟨hparties hmore, fun baseline => by
      rw [← groundTruth_parties, hparties hmore, groundTruth_parties]⟩ }

namespace FarFrom

variable {before after : Setup} {threeDevice : Bool} {others : List SimRadio} {last : SimRadio}
  (h : FarFrom before after threeDevice others last)
include h

theorem euis : after.scene.radios.map (·.eui) = before.scene.radios.map (·.eui) := by
  rw [h.far, h.near, List.map_append, List.map_append]
  rfl

theorem length : after.scene.radios.length = before.scene.radios.length := by
  rw [← List.length_map (·.eui), h.euis, List.length_map]

theorem air : Air.ofScene after.scene after.ranging.speedOfLight =
    (Air.ofScene before.scene before.ranging.speedOfLight).moved others.length Point.far := by
  have hdaemons := Scenario.modify_concat (fun d : SimDaemon => d.moved Point.far)
    (others.map fun r => ⟨r, ⟨0⟩⟩) ⟨last, ⟨0⟩⟩
  rw [List.length_map] at hdaemons
  unfold Air.ofScene Air.moved
  dsimp only
  rw [h.far, h.near, h.noise, h.ranging, List.map_append, List.map_append, List.map_singleton, List.map_singleton,
    hdaemons]
  rfl

-- Two batches that start from the same but for where the last radio is.
theorem beside {e : Endpoint Nat} (hknown : ∀ device place, e.addressOf device = .ok place →
      (before.scene.radios.map (·.eui))[place]? = some device) (now : Nat) (gen : StdGen) :
    Batch.Beside last.eui others.length Point.far (starting before e now gen) (starting after e now gen) where
  config := h.ranging
  devices := rfl
  next := rfl
  air := congrArg (LiveAir.mk · now gen) h.air
  timeline := rfl
  tally := rfl
  marks := rfl
  stopped := rfl
  known device place hplace := (congrArg (·[place]?) (Air.euis_ofScene ..)).trans (hknown device place hplace)
  bystander := by
    have hlast : (before.scene.radios.map (·.eui))[others.length]? = some last.eui := by simp [h.near]
    exact (congrArg (·[others.length]?) (Air.euis_ofScene ..)).trans hlast

end FarFrom

theorem conclude_congr {b b' : Batch} (htally : b'.tally = b.tally) (hmarks : b'.marks = b.marks)
    (hstopped : b'.stopped = b.stopped) (truth : Float) : conclude b' truth = conclude b truth := by
  unfold conclude report
  rw [htally, hmarks, hstopped]

-- If the last radio takes no part, its place does not show in what a run prints.
theorem run_far_of_bystander {o : Options} {file : Option (List UInt8)} {env : Environment} {before after : Setup}
    {others : List SimRadio} {last : SimRadio} (hnear : setup { o with scenario := "nominal" } file env = .ok before)
    (hfar : setup { o with scenario := "far" } file env = .ok after)
    (hmoves : FarFrom before after o.threeDevice others last) (hmore : partyCount o.threeDevice ≤ others.length)
    (hother : last.eui ∉ (parties before.scene.radios o.threeDevice).map (·.eui)) (gen : StdGen) :
    run { o with scenario := "far" } file env gen = run { o with scenario := "nominal" } file env gen := by
  have hcount : partyCount o.threeDevice ≤ (before.scene.radios.map (·.eui)).length := by
    rw [hmoves.near, List.length_map, List.length_append]
    exact Nat.le_add_right_of_le hmore
  obtain ⟨trio, e, now, gen', hdevices, hknown, hrun⟩ := exists_start hcount before.callTimeoutMs gen
  have htrio : last.eui ∉ trio.devices := by rwa [hdevices, ← List.map_take]
  have hbeside := (hmoves.beside hknown now gen').run htrio o.count
  rw [hrun _ file env before hnear rfl rfl rfl, hrun _ file env after hfar rfl hmoves.euis hmoves.callTimeoutMs,
    hmoves.length, hmoves.ranging, (hmoves.bystander hmore).2,
    conclude_congr hbeside.tally hbeside.marks hbeside.stopped]

-- The far preset moves the last radio. A run ranges with the first two or three and prints the truth of their places,
-- so that it is disturbed only if there are no more radios than that.
theorem far_moves_last (o : Options) (file : Option (List UInt8)) (env : Environment) (gen : StdGen) {before : Setup}
    (hsetup : setup { o with scenario := "nominal" } file env = .ok before)
    (hcount : partyCount o.threeDevice ≤ before.scene.radios.length) :
    ∃ after others last, setup { o with scenario := "far" } file env = .ok after ∧
      FarFrom before after o.threeDevice others last ∧
      (checkPorts o.port before.scene.radios.length = .ok () → ∃ (trio : Trio) (b : Batch),
        trio.devices = (parties after.scene.radios o.threeDevice).map (·.eui) ∧ b.config = after.ranging ∧
        b.air.air = Air.ofScene after.scene after.ranging.speedOfLight ∧ b.stopped = false ∧
        run { o with scenario := "far" } file env gen = conclude (b.run trio o.count)
          (groundTruth (parties after.scene.radios o.threeDevice) o.threeDevice after.ranging.baseline)) ∧
      (partyCount o.threeDevice ≤ others.length →
        last.eui ∉ (parties before.scene.radios o.threeDevice).map (·.eui) →
        run { o with scenario := "far" } file env gen = run { o with scenario := "nominal" } file env gen) := by
  obtain ⟨others, last, hradios⟩ : ∃ others last, before.scene.radios = others ++ [last] := by
    rcases before.scene.radios.eq_nil_or_concat with hnil | ⟨others, last, hlast⟩
    · rw [hnil] at hcount
      cases h : o.threeDevice <;> rw [h] at hcount <;> cases hcount
    · exact ⟨others, last, hlast.trans List.concat_eq_append⟩
  obtain ⟨after, hfar, hmoves⟩ : ∃ after, setup { o with scenario := "far" } file env = .ok after ∧
      FarFrom before after o.threeDevice others last :=
    ⟨_, setup_far hsetup, farFrom_apply before o.threeDevice hradios⟩
  refine ⟨after, others, last, hfar, hmoves, fun hports => ?ranges, fun hmore hother => ?bystander⟩
  case ranges =>
    have hcount' : partyCount o.threeDevice ≤ (after.scene.radios.map (·.eui)).length := by
      rwa [List.length_map, hmoves.length]
    obtain ⟨trio, e, now, gen', hdevices, -, hrun⟩ := exists_start hcount' after.callTimeoutMs gen
    refine ⟨trio, starting after e now gen', by rw [hdevices, parties, List.map_take], rfl, rfl, rfl, ?_⟩
    rw [hrun _ file env after hfar rfl rfl rfl, hmoves.length, hports, groundTruth_parties]
    rfl
  case bystander => exact run_far_of_bystander hsetup hfar hmoves hmore hother gen

theorem setup_builtIn (o : Options) : setup { o with scenario := "nominal" } none [] = .ok Setup.builtIn := by
  rw [setup_nominal]
  rfl

-- The built-in radios are as many as a run with a listener takes. From farther away it sees a shorter detour.
theorem far_moves_last_threeRadios :
    setup { threeDevice := true } none [] = .ok Setup.builtIn ∧
    partyCount true ≤ Setup.builtIn.scene.radios.length ∧ checkPorts 8912 Setup.builtIn.scene.radios.length = .ok () ∧
    ∃ after, setup { threeDevice := true, scenario := "far" } none [] = .ok after ∧
      (parties after.scene.radios true).map (·.position.x) = [0.0, 12.0, 512.0] ∧
      groundTruth after.scene.radios true none < groundTruth Setup.builtIn.scene.radios true none ∧
      ∃ (trio : Trio) (b : Batch), trio.devices = (parties after.scene.radios true).map (·.eui) ∧
        run { threeDevice := true, scenario := "far", count := 3 } none [] (mkStdGen 1) =
          conclude (b.run trio 3) (groundTruth (parties after.scene.radios true) true after.ranging.baseline) := by
  have hsetup : setup { threeDevice := true } none [] = .ok Setup.builtIn := setup_builtIn { threeDevice := true }
  have hcount : partyCount true ≤ Setup.builtIn.scene.radios.length := by decide
  have hports : checkPorts 8912 Setup.builtIn.scene.radios.length = .ok () := rfl
  obtain ⟨after, others, last, hfar, hafter, hrun⟩ :=
    far_moves_last { threeDevice := true, count := 3 } none [] (mkStdGen 1) hsetup hcount
  have hothers : Setup.builtIn.scene.radios.dropLast = others := by rw [hafter.near, List.dropLast_concat]
  have hlast : Setup.builtIn.scene.radios.getLast? = some last := by rw [hafter.near, List.getLast?_concat]
  subst hothers
  cases hlast
  obtain ⟨trio, b, hdevices, -, -, -, hresult⟩ := hrun.1 hports
  refine ⟨hsetup, hcount, hports, after, hfar, ?_, ?_, trio, b, hdevices, hresult⟩
  · rw [(hafter.party rfl).2]
    decide
  · rw [hafter.far]
    decide +kernel

-- They are one more than two devices take. The last one is moved all the same, what is to be measured stays 13 m, and
-- the run prints what it prints without the preset.
theorem far_moves_bystander :
    ∃ after, setup {} none [] = .ok Setup.builtIn ∧ setup { scenario := "far" } none [] = .ok after ∧
      after.scene.radios[2]?.map (·.position.x) = some 512.0 ∧
      parties after.scene.radios false = parties Setup.builtIn.scene.radios false ∧
      groundTruth Setup.builtIn.scene.radios false none = 13.0 ∧
      (∀ baseline, groundTruth after.scene.radios false baseline =
        groundTruth Setup.builtIn.scene.radios false baseline) ∧
      ∀ count gen, run { count := count, scenario := "far" } none [] gen = run { count := count } none [] gen := by
  have hsetup : setup {} none [] = .ok Setup.builtIn := setup_builtIn {}
  have hradios : Setup.builtIn.scene.radios = Setup.builtIn.scene.radios.take 2 ++ [_] := rfl
  have hmore : partyCount false ≤ (Setup.builtIn.scene.radios.take 2).length := by decide
  have hother : ⟨0x70b3d5b1e0000026⟩ ∉ (parties Setup.builtIn.scene.radios false).map (·.eui) := by decide
  have hmoves := farFrom_apply Setup.builtIn false hradios
  obtain ⟨hparties, htruth⟩ := hmoves.bystander hmore
  refine ⟨_, hsetup, setup_far (o := {}) hsetup, by decide, hparties, by decide +kernel, htruth, fun count gen => ?_⟩
  have hnear := setup_builtIn { count := count }
  exact run_far_of_bystander hnear (setup_far hnear) hmoves hmore hother gen

end Session

end UwbRanging
