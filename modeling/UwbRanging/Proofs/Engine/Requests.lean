import UwbRanging.Proofs.Engine.Cleanup
import UwbRanging.Proofs.Engine.Isolation
import UwbRanging.Proofs.Engine.Slots

namespace UwbRanging

namespace ExchangeTable

theorem toNat_add_ofNat {first : BlinkId} {i : Nat} (hi : first.toNat + i < 2 ^ 64) :
    (first + UInt64.ofNat i).toNat = first.toNat + i := by
  have hsmall : i < 2 ^ 64 := Nat.lt_of_le_of_lt (Nat.le_add_left _ _) hi
  rw [UInt64.toNat_add, UInt64.toNat_ofNat_of_lt' hsmall, Nat.mod_eq_of_lt hi]

theorem idsFrom_add (first : BlinkId) (m n : Nat) :
    idsFrom first (m + n) = idsFrom first m ++ idsFrom (first + UInt64.ofNat m) n := by
  induction m generalizing first with
  | zero =>
    rw [Nat.zero_add, show first + UInt64.ofNat 0 = first from UInt64.add_zero first]
    rfl
  | succ m ih =>
    rw [Nat.add_right_comm, idsFrom, idsFrom, ih, add_ofNat_succ]
    rfl

theorem toNat_of_mem_idsFrom {first id : BlinkId} {n : Nat} (hn : first.toNat + n ≤ 2 ^ 64)
    (hid : id ∈ idsFrom first n) : first.toNat ≤ id.toNat := by
  obtain ⟨i, hi, rfl⟩ := (mem_idsFrom _).mp hid
  rw [toNat_add_ofNat (by omega)]
  exact Nat.le_add_right _ _

-- Ids that are counted up grow, as long as the count does not come round.
theorem pairwise_idsFrom {first : BlinkId} {n : Nat} (hn : first.toNat + n ≤ 2 ^ 64) :
    (idsFrom first n).Pairwise (· < ·) := by
  induction n generalizing first with
  | zero => exact List.Pairwise.nil
  | succ n ih =>
    by_cases hlast : n = 0
    · subst hlast
      exact List.pairwise_singleton _ _
    have hsucc : (first + 1).toNat = first.toNat + 1 := toNat_add_ofNat (i := 1) (by omega)
    have hrest : (first + 1).toNat + n ≤ 2 ^ 64 := by omega
    refine List.pairwise_cons.mpr ⟨fun id hid => UInt64.lt_iff_toNat_lt.mpr ?_, ih hrest⟩
    have := toNat_of_mem_idsFrom hrest hid
    omega

-- The next id tells how many were asked for.
theorem next_run (ops : List TableOp) : (run {} ops).next = 1 + UInt64.ofNat (TableOp.creates ops) := by
  rw [run_eq_replay, next_replay (openedIds_trace {} ops)]

theorem isLive_create (t : ExchangeTable) : t.create.2.isLive t.create.1 = true := by
  rw [← mem_ids_iff]
  exact (t.mem_ids_apply t.next (.opened t.next)).mpr (.inl rfl)

end ExchangeTable

namespace Issued

section Answers

variable (devices : List Eui64) (steps : List BlinkStep)

-- Each request is answered by the network's step for it.
theorem answer_of_getElem? {i : Nat} {answer : Except TransportError Unit}
    (h : (answers devices steps)[i]? = some answer) : answer = (steps.getD i {}).sent := by
  induction devices generalizing steps i with
  | nil => cases h
  | cons device devices ih =>
    have hhead : (steps.headD {}).sent = (steps.getD 0 {}).sent := by cases steps <;> rfl
    have htail (i : Nat) : steps.tail.getD i {} = steps.getD (i + 1) {} := by cases steps <;> rfl
    rw [answers] at h
    cases i with
    | zero =>
      rw [← hhead]
      cases hsent : (steps.headD {}).sent <;> simp_all
    | succ i =>
      cases hsent : (steps.headD {}).sent with
      | ok _ =>
        rw [hsent] at h
        exact htail i ▸ ih steps.tail h
      | error e =>
        rw [hsent] at h
        cases h

-- No request follows one that is refused.
theorem answers_cases : answers devices steps = List.replicate devices.length (.ok ()) ∨
    ∃ n e, answers devices steps = List.replicate n (.ok ()) ++ [.error e] := by
  induction devices generalizing steps with
  | nil => exact .inl rfl
  | cons device devices ih =>
    rw [answers]
    cases (steps.headD {}).sent with
    | ok _ =>
      rcases ih steps.tail with hrest | ⟨n, e, hrest⟩
      · left
        rw [hrest, List.length_cons, List.replicate_succ]
      · refine .inr ⟨n + 1, e, ?_⟩
        rw [hrest, List.replicate_succ, List.cons_append]
    | error e => exact .inr ⟨0, e, rfl⟩

theorem ok_of_mem_dropLast {answer : Except TransportError Unit} (h : answer ∈ (answers devices steps).dropLast) :
    answer = .ok () := by
  rcases answers_cases devices steps with hall | ⟨n, e, hrefused⟩
  · rw [hall] at h
    exact List.eq_of_mem_replicate (List.dropLast_subset _ h)
  · rw [hrefused, List.dropLast_concat] at h
    exact List.eq_of_mem_replicate h

theorem length_answers : (answers devices steps).length = devices.length ∨
    ∃ e, (answers devices steps).getLast? = some (.error e) := by
  rcases answers_cases devices steps with hall | ⟨n, e, hrefused⟩
  · left
    rw [hall, List.length_replicate]
  · refine .inr ⟨e, ?_⟩
    rw [hrefused, List.getLast?_concat]

theorem refusal_replicate_append (n : Nat) (rest : List (Except TransportError Unit)) :
    refusal (List.replicate n (.ok ()) ++ rest) = refusal rest := by
  induction n with
  | zero => rfl
  | succ n ih => rwa [List.replicate_succ, List.cons_append, refusal]

theorem refusal_eq_some_iff {e : TransportError} :
    refusal (answers devices steps) = some e ↔ .error e ∈ answers devices steps := by
  have hsent (n : Nat) : (.error e : Except TransportError Unit) ∉ List.replicate n (.ok ()) := fun hmem => by
    cases List.eq_of_mem_replicate hmem
  rcases answers_cases devices steps with hall | ⟨n, e', hrefused⟩
  · have hnone := refusal_replicate_append devices.length []
    rw [List.append_nil] at hnone
    rw [hall, hnone]
    exact iff_of_false nofun (hsent _)
  · rw [hrefused, refusal_replicate_append, List.mem_append, or_iff_right (hsent n), List.mem_singleton, refusal,
      Option.some.injEq, Except.error.injEq, eq_comm]

end Answers

theorem nextId_eq (id : BlinkId) (answers : List (Except TransportError Unit)) :
    nextId id answers = id + UInt64.ofNat answers.length := by
  induction answers generalizing id with
  | nil => exact (UInt64.add_zero id).symm
  | cons answer rest ih => rw [nextId, ih, ExchangeTable.add_ofNat_succ, List.length_cons]

-- Requests for the blinks of these devices in turn, after so many others and from this id on, up to the first one
-- that is refused.
structure Asks (count : Nat) (first : BlinkId) (devices : List Eui64) (steps : List BlinkStep)
    (calls : List BlinkCall) : Prop where
  asked : calls.map (·.device) <+: devices
  ids : calls.map (·.id) = ExchangeTable.idsFrom first calls.length
  states : calls.map (·.state) = (List.range' count calls.length).map RangingState.awaiting
  answered : calls.map (·.answer) = answers devices steps
  live : ∀ call ∈ calls, call.table.isLive call.id = true

variable (s : Issued) (device : Eui64)

-- The request for a blink. It is made when the exchange is open.
def call (step : BlinkStep) : BlinkCall :=
  ⟨device, s.table.create.1, RangingState.awaiting s.calls.length, s.table.create.2, step.sent⟩

theorem calls_blink (step : BlinkStep) : (s.blink device step).calls = s.calls ++ [s.call device step] := by
  have hcalls := (file_reports (s.request device step.sent) step.reports).2.2.2
  unfold blink
  dsimp only
  split <;> exact hcalls

variable {s}

theorem Asks.of_refused {device : Eui64} {steps : List BlinkStep} {e : TransportError}
    (hsent : (steps.headD {}).sent = .error e) (devices : List Eui64) :
    Asks s.calls.length s.table.next (device :: devices) steps [s.call device (steps.headD {})] where
  asked := List.prefix_append [device] devices
  ids := rfl
  states := rfl
  answered := by
    have hanswer : (s.call device (steps.headD {})).answer = .error e := hsent
    rw [answers, hsent, List.map_singleton, hanswer]
  live := by
    rintro _ (_ | ⟨_, ⟨⟩⟩)
    exact s.table.isLive_create

theorem Asks.cons {device : Eui64} {devices : List Eui64} {steps : List BlinkStep} {calls : List BlinkCall}
    (hsent : (steps.headD {}).sent = .ok ())
    (h : Asks (s.calls.length + 1) (s.table.next + 1) devices steps.tail calls) :
    Asks s.calls.length s.table.next (device :: devices) steps (s.call device (steps.headD {}) :: calls) where
  asked := (List.prefix_cons_inj device).mpr h.asked
  ids := congrArg (s.table.next :: ·) h.ids
  states := congrArg (RangingState.awaiting s.calls.length :: ·) h.states
  answered := by
    have hanswer : (s.call device (steps.headD {})).answer = .ok () := hsent
    rw [answers, hsent, List.map_cons, hanswer, h.answered]
  live := by
    intro call hcall
    rcases List.mem_cons.mp hcall with rfl | hrest
    · exact s.table.isLive_create
    · exact h.live call hrest

theorem exists_asks (hfresh : s.error = none) (devices : List Eui64) (steps : List BlinkStep) :
    ∃ calls, (s.blinkAll devices steps).calls = s.calls ++ calls ∧
      Asks s.calls.length s.table.next devices steps calls := by
  induction devices generalizing s steps with
  | nil => exact ⟨[], (List.append_nil _).symm, List.prefix_refl _, rfl, rfl, rfl, List.forall_mem_nil _⟩
  | cons device devices ih =>
    have hcalls := s.calls_blink device (steps.headD {})
    unfold blinkAll
    cases hsent : (steps.headD {}).sent with
    | ok _ =>
      obtain ⟨htable, -, herror⟩ := blink_of_ok s device hsent
      have hnext := next_replay_blink s.table (steps.headD {})
      rw [← htable] at hnext
      rw [hfresh] at herror
      simp only [herror, Option.isSome_none, Bool.false_eq_true, if_false]
      obtain ⟨calls, hall, hasks⟩ := ih herror steps.tail
      rw [hcalls, List.length_append, List.length_singleton, hnext] at hasks
      refine ⟨_, ?_, hasks.cons hsent⟩
      rw [hall, hcalls, List.append_assoc]
      rfl
    | error e =>
      obtain ⟨-, -, herror⟩ := blink_of_error s device hsent
      simp only [herror, Option.isSome_some, if_true]
      exact ⟨_, hcalls, .of_refused hsent devices⟩

end Issued

-- An attempt without a slot's record gives up for want of reports.
theorem SlotRecords.isTimeout_of_ofSlot {exchanges : List (Option Exchange)} {p q : Eui64} {waited : Nat} {slot : Slot}
    {e : RangingError} (h : ofSlot exchanges p q waited slot = .error e) : e.isTimeout = true := by
  unfold ofSlot at h
  dsimp only at h
  split at h
  · cases h
    rfl
  · split at h
    · cases h
    · split at h <;> cases h <;> rfl

-- How an attempt goes about its blinks, and what it makes of the answers. The program stops in the midst of an attempt
-- whose reports `stops` tells of.
structure Run.Conducted (run : Run) (a : Attempt) (stops : Prop) : Prop where
  -- the devices are asked in order, up to the first request that is refused
  devices : run.calls.map (·.device) <+: [a.trio.dut, a.trio.reference, a.trio.dut]
  answers : ∀ i call, run.calls[i]? = some call → call.answer = (a.script.blinks.getD i {}).sent
  sent : ∀ call ∈ run.calls.dropLast, call.answer = .ok ()
  ended : run.calls.length = 3 ∨ ∃ call e, run.calls.getLast? = some call ∧ call.answer = .error e
  -- the engine waits for its blinks one after another, and each exchange is open when its blink is asked for
  states : run.calls.map (·.state) <+: [.awaitingT1, .awaitingT2, .awaitingT3]
  live : ∀ call ∈ run.calls, call.table.isLive call.id = true
  transport : ∀ e, run.result = some (.error (.transport e)) ↔ ∃ call ∈ run.calls, call.answer = .error e
  -- an attempt that is stopped has no result, and the engine still waits for its last blink
  stopped : run.result = none ↔ stops
  waiting : run.state = .awaitingT3 ↔ stops
  -- afterwards any other engine waits for nothing any more
  settled : ¬ stops → run.state ∈ [.complete, .timedOut, .failed]
  complete : run.state = .complete ↔ ∃ outcome, run.result = some (.ok outcome)
  timedOut : run.state = .timedOut ↔ (∃ waited, run.result = some (.error (.timeout waited))) ∨
    ∃ slot device, run.result = some (.error (.missingTimestamp slot device))
  failed : run.state = .failed ↔ ∃ e, run.result = some (.error e) ∧
    (∀ waited, e ≠ .timeout waited) ∧ ∀ slot device, e ≠ .missingTimestamp slot device

namespace Attempt

variable (config : RangingConfig) (table : ExchangeTable) (a : Attempt)

theorem perform_calls : (config.perform table a.trio a.script).calls = (a.issued table).calls := rfl

theorem asks_perform :
    Issued.Asks 0 table.next a.trio.blinkers a.script.blinks (config.perform table a.trio a.script).calls := by
  have hfresh : ({ table := table.deliverAll a.script.before } : Issued).error = none := rfl
  obtain ⟨calls, hcalls, hasks⟩ := Issued.exists_asks hfresh a.trio.blinkers a.script.blinks
  rw [List.nil_append] at hcalls
  rw [perform_calls, issued, hcalls, ← table.next_deliverAll a.script.before]
  exact hasks

theorem length_calls : (config.perform table a.trio a.script).calls.length = a.answers.length := by
  rw [answers, ← (a.asks_perform config table).answered, List.length_map]

-- Each request uses up one id.
theorem next_perform_calls : (config.perform table a.trio a.script).table.next =
    table.next + UInt64.ofNat (config.perform table a.trio a.script).calls.length := by
  rw [length_calls, ← Issued.nextId_eq]
  exact a.perform_next table config

theorem conclude_ne_transport (exchanges : List (Option Exchange)) (e : TransportError) :
    a.conclude config exchanges ≠ some (.error (.transport e)) := by
  intro h
  rw [conclude, RangingConfig.conclude] at h
  rcases SlotRecords.collect_cases exchanges a.trio.first a.trio.reference config.waitNanos with
    ⟨records, hcollect, -⟩ | ⟨slot, e', hcollect, herror, -⟩
  · rw [hcollect] at h
    rcases SlotRecords.outcome_error h with he | ⟨distance, he⟩ <;> cases he
  · rw [hcollect] at h
    cases h
    cases SlotRecords.isTimeout_of_ofSlot herror

theorem result_transport_iff (e : TransportError) :
    (config.perform table a.trio a.script).result = some (.error (.transport e)) ↔ .error e ∈ a.answers := by
  obtain ⟨-, -, herror, -⟩ := a.issued_eq table
  rw [answers, ← Issued.refusal_eq_some_iff, ← answers, ← herror]
  cases hrefused : (a.issued table).error with
  | some e' =>
    rw [(a.perform_of_refused table config hrefused).1]
    simp
  | none =>
    rw [(a.perform_of_sent table config hrefused).1]
    exact iff_of_false (a.conclude_ne_transport config _ e) nofun

theorem conducted : (config.perform table a.trio a.script).Conducted a (a.Stops config table) := by
  have hasks := a.asks_perform config table
  have hstate := a.perform_state table config
  have htransport := a.result_transport_iff config table
  have hlength := a.length_calls config table
  rw [← perform_eq_none_iff]
  generalize config.perform table a.trio a.script = run at *
  have hthree := hasks.asked.length_le
  rw [List.length_map] at hthree
  constructor
  case devices => exact hasks.asked
  case live => exact hasks.live
  case answers =>
    intro i call hcall
    apply Issued.answer_of_getElem? a.trio.blinkers a.script.blinks
    rw [← hasks.answered, List.getElem?_map, hcall]
    rfl
  case sent =>
    intro call hcall
    apply Issued.ok_of_mem_dropLast a.trio.blinkers a.script.blinks
    rw [← hasks.answered, ← List.map_dropLast]
    exact List.mem_map_of_mem hcall
  case ended =>
    rcases Issued.length_answers a.trio.blinkers a.script.blinks with hall | ⟨e, he⟩
    · exact .inl (hlength.trans hall)
    · rw [← hasks.answered, List.getLast?_map] at he
      obtain ⟨call, hlast, hanswer⟩ := Option.map_eq_some_iff.mp he
      exact .inr ⟨call, e, hlast, hanswer⟩
  case states =>
    have hall : [.awaitingT1, .awaitingT2, .awaitingT3] = (List.range' 0 3).map RangingState.awaiting := rfl
    rw [hasks.states, hall]
    have hsplit := @List.range'_append_1 0 run.calls.length (a.trio.blinkers.length - run.calls.length)
    rw [Nat.add_sub_cancel' hthree] at hsplit
    exact List.IsPrefix.map _ ⟨_, hsplit⟩
  case transport =>
    intro e
    rw [htransport, answers, ← hasks.answered, List.mem_map]
  case stopped => exact Iff.rfl
  all_goals
    rw [hstate]
    match run.result with
    | none => simp [RangingState.after]
    | some (.ok outcome) => simp [RangingState.after]
    | some (.error e) => cases e <;> simp [RangingState.after, RangingError.isTimeout]

end Attempt

namespace RangingConfig

variable (config : RangingConfig) (table : ExchangeTable)

theorem attempts_series (attempts : List Attempt) : (config.series table attempts).map (·.attempt) = attempts := by
  induction attempts generalizing table with
  | nil => rfl
  | cons a rest ih => exact congrArg (a :: ·) (ih _)

theorem conducted_series {attempts : List Attempt} {e : Episode} (he : e ∈ config.series table attempts) :
    e.run.Conducted e.attempt (e.attempt.Stops config e.table) := by
  induction attempts generalizing table with
  | nil => cases he
  | cons a rest ih =>
    rcases List.mem_cons.mp he with rfl | hrest
    · exact a.conducted config table
    · exact ih _ hrest

-- The ids of a series are counted up over all of its attempts.
theorem ids_series (attempts : List Attempt) :
    ((config.series table attempts).flatMap (·.run.calls)).map (·.id) =
      ExchangeTable.idsFrom table.next ((config.series table attempts).flatMap (·.run.calls)).length := by
  induction attempts generalizing table with
  | nil => rfl
  | cons a rest ih =>
    have hids := (a.asks_perform config table).ids
    have hnext := a.next_perform_calls config table
    rw [series, List.flatMap_cons, List.map_append, List.length_append, ExchangeTable.idsFrom_add, ih]
    unfold episode
    rw [hids, hnext]

-- A series of attempts on a table that was used before, over any network. Every attempt asks for its blinks in
-- order and ends in a state that tells its result, unless its reports stop the program. The ids that it asks with only
-- grow, and none of them was ever given out before.
theorem series_conducted (ops : List TableOp) (attempts : List Attempt) :
    let series := config.series (ExchangeTable.run {} ops) attempts
    let calls := series.flatMap (·.run.calls)
    series.map (·.attempt) = attempts ∧ (∀ e ∈ series, e.run.Conducted e.attempt (e.attempt.Stops config e.table)) ∧
    (TableOp.creates ops + calls.length < 2 ^ 64 → (calls.map (·.id)).Pairwise (· < ·) ∧
      ∀ call ∈ calls, TableOp.creates ops < call.id.toNat) := by
  intro series calls
  refine ⟨config.attempts_series _ attempts, fun e he => config.conducted_series _ he, fun hcount => ?_⟩
  by_cases hnone : calls = []
  · rw [hnone]
    exact ⟨List.Pairwise.nil, List.forall_mem_nil _⟩
  have hpos := List.length_pos_of_ne_nil hnone
  have hone : (1 : BlinkId).toNat + TableOp.creates ops < 2 ^ 64 := by
    rw [UInt64.toNat_one]
    omega
  have hnext : (ExchangeTable.run {} ops).next.toNat = 1 + TableOp.creates ops := by
    rw [ExchangeTable.next_run, ExchangeTable.toNat_add_ofNat hone, UInt64.toNat_one]
  have hids := config.ids_series (ExchangeTable.run {} ops) attempts
  have hbound : (ExchangeTable.run {} ops).next.toNat + calls.length ≤ 2 ^ 64 := by omega
  refine ⟨hids ▸ ExchangeTable.pairwise_idsFrom hbound, fun call hcall => ?_⟩
  have hid : call.id ∈ ExchangeTable.idsFrom (ExchangeTable.run {} ops).next calls.length :=
    hids ▸ List.mem_map_of_mem hcall
  have := ExchangeTable.toNat_of_mem_idsFrom hbound hid
  omega

-- One exchange was opened before. The second request of the first attempt is refused, and nobody reports on the
-- blinks of the second attempt.
theorem series_conducted_refused :
    let ops : List TableOp := [.create]
    let refused : Attempt :=
      ⟨{ dut := ⟨1⟩, reference := ⟨2⟩ }, { blinks := [{}, { sent := .error (.unknownDevice ⟨2⟩) }] }⟩
    let silent : Attempt := ⟨{ dut := ⟨1⟩, reference := ⟨2⟩, listener := some ⟨3⟩ }, {}⟩
    let series := RangingConfig.series {} (ExchangeTable.run {} ops) [refused, silent]
    let calls := series.flatMap (·.run.calls)
    TableOp.creates ops + calls.length < 2 ^ 64 ∧ calls.map (·.id) = [2, 3, 4, 5, 6] ∧
      (calls.map (·.id)).Pairwise (· < ·) ∧ (∀ call ∈ calls, TableOp.creates ops < call.id.toNat) ∧
      series.map (·.run.state) = [.failed, .timedOut] ∧
      ∀ e ∈ series, e.run.Conducted e.attempt (e.attempt.Stops {} e.table) := by
  intro ops refused silent series calls
  have hcount : TableOp.creates ops + calls.length < 2 ^ 64 := by decide
  obtain ⟨-, hconducted, hids⟩ := series_conducted {} ops [refused, silent]
  exact ⟨hcount, by decide, (hids hcount).1, (hids hcount).2, by decide, hconducted⟩

end RangingConfig

-- The report of a device's time, which is all that its record holds.
def Delivery.timed (id : BlinkId) (device : UInt64) (time : Nat) : Delivery :=
  ⟨id, { device := ⟨device⟩, timestamp := { hires := Hires.ofValue time } }⟩

-- The three devices report with the wait, each on the blinks that its clock is asked for. The reference claims to have
-- answered before it heard anything, and the listener to have heard the last blink long after.
def Attempt.misordered : Attempt where
  trio := { dut := ⟨1⟩, reference := ⟨2⟩, listener := some ⟨3⟩ }
  script := {
    waiting := [.timed 1 3 0, .timed 1 2 (2 ^ 63), .timed 2 2 0, .timed 2 3 (2 ^ 63), .timed 3 3 (2 ^ 64 + 2 ^ 63),
      .timed 3 2 (2 ^ 64 - 1)] }

-- All blinks go out and all records come, and yet the engine is left in the state in which it waits for them.
theorem RangingConfig.series_stops :
    let series := RangingConfig.series {} {} [Attempt.misordered]
    series.map (·.run.calls.length) = [3] ∧ series.map (·.run.result.isSome) = [false] ∧
      series.map (·.run.state) = [.awaitingT3] := by
  decide

end UwbRanging
