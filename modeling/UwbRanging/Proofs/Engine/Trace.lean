import UwbRanging.Engine.Basic
import UwbRanging.Proofs.Exchange.Trace

namespace UwbRanging

-- What the table goes through when an exchange is opened under this id and its blink is asked for.
def BlinkStep.trace (step : BlinkStep) (id : BlinkId) : List TableEvent :=
  .opened id :: (step.reports.map .delivered ++ match step.sent with | .ok _ => [] | .error _ => [.closed id])

namespace Issued

-- The answers to the requests that are made for these devices. The first refusal is the last one.
def answers : List Eui64 → List BlinkStep → List (Except TransportError Unit)
  | [], _ => []
  | _ :: devices, steps =>
    match (steps.headD {}).sent with
    | .ok _ => .ok () :: answers devices steps.tail
    | .error e => [.error e]

-- What the table goes through meanwhile, from the first id on.
def trace (id : BlinkId) : List Eui64 → List BlinkStep → List TableEvent
  | [], _ => []
  | _ :: devices, steps =>
    (steps.headD {}).trace id ++
      match (steps.headD {}).sent with
      | .ok _ => trace (id + 1) devices steps.tail
      | .error _ => []

-- The ids that go out under such answers.
def sentIds (id : BlinkId) : List (Except TransportError Unit) → List BlinkId
  | .ok _ :: rest => id :: sentIds (id + 1) rest
  | _ => []

-- The error of the request that is refused, if one is.
def refusal : List (Except TransportError Unit) → Option TransportError
  | .ok _ :: rest => refusal rest
  | .error e :: _ => some e
  | [] => none

-- The id that comes after these requests. One that is refused has used its id up.
def nextId (id : BlinkId) : List (Except TransportError Unit) → BlinkId
  | [] => id
  | _ :: rest => nextId (id + 1) rest

theorem file_reports (s : Issued) (ds : List Delivery) :
    (ds.foldl file s).table = s.table.deliverAll ds ∧ (ds.foldl file s).ids = s.ids ∧
      (ds.foldl file s).error = s.error ∧ (ds.foldl file s).calls = s.calls := by
  induction ds generalizing s with
  | nil => exact ⟨rfl, rfl, rfl, rfl⟩
  | cons d ds ih => exact ih (s.file d)

section Blink

variable (s : Issued) (device : Eui64) {step : BlinkStep}

-- A blink opens its exchange and files what is reported before the answer, and only then does the answer count.
theorem blink_eq (step : BlinkStep) : ∃ filed : Issued,
    filed.table = s.table.replay (.opened s.table.next :: step.reports.map .delivered) ∧
    filed.ids = s.ids ∧ filed.error = s.error ∧
    s.blink device step = match step.sent with
      | .ok _ => { filed with ids := filed.ids ++ [s.table.next] }
      | .error e => { filed with table := filed.table.purge s.table.next, error := some e } := by
  obtain ⟨htable, hids, herror, -⟩ := file_reports (s.request device step.sent) step.reports
  refine ⟨_, ?_, hids, herror, rfl⟩
  rw [htable, ExchangeTable.replay_cons, ExchangeTable.replay_delivered]
  rfl

theorem blink_of_ok (hsent : step.sent = .ok ()) :
    (s.blink device step).table = s.table.replay (step.trace s.table.next) ∧
      (s.blink device step).ids = s.ids ++ [s.table.next] ∧ (s.blink device step).error = s.error := by
  obtain ⟨filed, htable, hids, herror, hblink⟩ := s.blink_eq device step
  rw [hblink, BlinkStep.trace, hsent, List.append_nil, ← htable, ← hids]
  exact ⟨rfl, rfl, herror⟩

theorem blink_of_error {e : TransportError} (hsent : step.sent = .error e) :
    (s.blink device step).table = s.table.replay (step.trace s.table.next) ∧
      (s.blink device step).ids = s.ids ∧ (s.blink device step).error = some e := by
  obtain ⟨filed, htable, hids, _, hblink⟩ := s.blink_eq device step
  rw [hblink, BlinkStep.trace, hsent, ← List.cons_append, ExchangeTable.replay_append, ← htable]
  exact ⟨rfl, hids, rfl⟩

end Blink

theorem next_replay_blink (table : ExchangeTable) (step : BlinkStep) :
    (table.replay (step.trace table.next)).next = table.next + 1 := by
  unfold BlinkStep.trace
  rw [ExchangeTable.replay_cons, ExchangeTable.replay_append, ExchangeTable.replay_delivered]
  cases step.sent with
  | ok _ => exact ExchangeTable.next_deliverAll _ _
  | error e => exact ExchangeTable.next_deliverAll _ _

-- The requests of an attempt, told by their answers.
theorem blinkAll_eq {s : Issued} (hfresh : s.error = none) (devices : List Eui64) (steps : List BlinkStep) :
    (s.blinkAll devices steps).table = s.table.replay (trace s.table.next devices steps) ∧
      (s.blinkAll devices steps).ids = s.ids ++ sentIds s.table.next (answers devices steps) ∧
      (s.blinkAll devices steps).error = refusal (answers devices steps) ∧
      (s.blinkAll devices steps).table.next = nextId s.table.next (answers devices steps) := by
  induction devices generalizing s steps with
  | nil => exact ⟨rfl, (List.append_nil _).symm, hfresh, rfl⟩
  | cons device devices ih =>
    unfold blinkAll trace answers
    cases hsent : (steps.headD {}).sent with
    | ok _ =>
      obtain ⟨htable, hids, herror⟩ := blink_of_ok s device hsent
      have hnext := next_replay_blink s.table (steps.headD {})
      rw [← htable] at hnext
      rw [hfresh] at herror
      obtain ⟨ihtable, ihids, iherror, ihnext⟩ := ih herror steps.tail
      simp only [herror, Option.isSome_none, Bool.false_eq_true, if_false]
      refine ⟨?_, ?_, iherror, ?_⟩
      · rw [ihtable, hnext, htable, ExchangeTable.replay_append]
      · rw [ihids, hids, hnext, sentIds, List.append_assoc, List.singleton_append]
      · rw [ihnext, hnext, nextId]
    | error e =>
      obtain ⟨htable, hids, herror⟩ := blink_of_error s device hsent
      simp only [herror, Option.isSome_some, if_true, List.append_nil, sentIds]
      refine ⟨htable, hids, rfl, ?_⟩
      rw [htable, next_replay_blink]
      rfl

theorem sent_cons (id : BlinkId) {device : Eui64} {devices : List Eui64} {steps : List BlinkStep}
    (hsent : refusal (answers (device :: devices) steps) = none) :
    refusal (answers devices steps.tail) = none ∧
      sentIds id (answers (device :: devices) steps) = id :: sentIds (id + 1) (answers devices steps.tail) ∧
      trace id (device :: devices) steps = .opened id ::
        ((steps.headD {}).reports.map .delivered ++ trace (id + 1) devices steps.tail) := by
  rw [answers] at hsent ⊢
  rw [trace, BlinkStep.trace]
  cases hanswer : (steps.headD {}).sent with
  | error e => rw [hanswer] at hsent; cases hsent
  | ok _ =>
    rw [hanswer] at hsent
    exact ⟨hsent, rfl, by rw [List.append_nil, List.cons_append]⟩

-- If all three requests go out, their exchanges are opened one after another and stay open.
theorem sent_three (id : BlinkId) {x y z : Eui64} {steps : List BlinkStep}
    (hsent : refusal (answers [x, y, z] steps) = none) :
    sentIds id (answers [x, y, z] steps) = [id, id + 1, id + 1 + 1] ∧
      ∃ ds ds' ds'' : List Delivery, trace id [x, y, z] steps =
        .opened id :: (ds.map .delivered ++ .opened (id + 1) :: (ds'.map .delivered ++
          .opened (id + 1 + 1) :: ds''.map .delivered)) := by
  obtain ⟨hsecond, hids, htrace⟩ := sent_cons id hsent
  obtain ⟨hthird, hids', htrace'⟩ := sent_cons (id + 1) hsecond
  obtain ⟨_, hids'', htrace''⟩ := sent_cons (id + 1 + 1) hthird
  rw [trace, List.append_nil] at htrace''
  rw [htrace', htrace''] at htrace
  refine ⟨?_, _, _, _, htrace⟩
  rw [hids, hids', hids'']
  rfl

end Issued

-- What the table goes through while the exchanges of an attempt are taken.
def takeTrace (ids : List BlinkId) (script : Script) : List TableEvent :=
  match ids with
  | [a, b, c] =>
    script.beforeFirst.map .delivered ++ .closed a :: (script.beforeSecond.map .delivered ++
      .closed b :: (script.beforeThird.map .delivered ++ [.closed c]))
  | _ => []

theorem takeThree_table (table : ExchangeTable) (ids : List BlinkId) (script : Script) :
    (takeThree table ids script).2 = table.replay (takeTrace ids script) := by
  match ids with
  | [a, b, c] =>
    simp only [takeTrace, ExchangeTable.replay_append, ExchangeTable.replay_delivered, ExchangeTable.replay_cons]
    rfl
  | [] => rfl
  | [_] => rfl
  | [_, _] => rfl
  | _ :: _ :: _ :: _ :: _ => rfl

theorem takeThree_next (table : ExchangeTable) (ids : List BlinkId) (script : Script) :
    (takeThree table ids script).2.next = table.next := by
  unfold takeThree
  split <;> simp [ExchangeTable.take]

-- Exchanges that are taken are gone, whatever is reported meanwhile.
theorem purges_takeThree (table : ExchangeTable) (a b c : BlinkId) (script : Script) :
    [a, b, c].foldl ExchangeTable.purge (takeThree table [a, b, c] script).2 =
      (takeThree table [a, b, c] script).2 := by
  have hfirst (t : ExchangeTable) (ds ds' : List Delivery) :
      ((((t.purge a).deliverAll ds).purge b).deliverAll ds').find? a = none :=
    ExchangeTable.find?_eq_none_deliverAll _ (ExchangeTable.find?_eq_none_purge
      (ExchangeTable.find?_eq_none_deliverAll _ t.find?_purge_self))
  have hsecond (t : ExchangeTable) (ds : List Delivery) : ((t.purge b).deliverAll ds).find? b = none :=
    ExchangeTable.find?_eq_none_deliverAll _ t.find?_purge_self
  simp only [takeThree, ExchangeTable.take, List.foldl_cons, List.foldl_nil]
  rw [ExchangeTable.purge_of_find?_eq_none (ExchangeTable.find?_eq_none_purge (hfirst ..)),
    ExchangeTable.purge_of_find?_eq_none (ExchangeTable.find?_eq_none_purge (hsecond ..)),
    ExchangeTable.purge_of_find?_eq_none (ExchangeTable.find?_purge_self ..)]

-- Who is asked to range, and what the network does meanwhile.
structure Attempt where
  trio : Trio
  script : Script

namespace Attempt

variable (table : ExchangeTable) (a : Attempt) (config : RangingConfig)

def issued : Issued :=
  Issued.blinkAll { table := table.deliverAll a.script.before } a.trio.blinkers a.script.blinks

def answers : List (Except TransportError Unit) := Issued.answers a.trio.blinkers a.script.blinks

-- The reports that are filed while the engine waits.
def awaited : List Delivery :=
  (a.issued table).table.awaited (a.issued table).ids a.trio.reporters a.script.waiting

-- What the table goes through in an attempt.
def trace : List TableEvent :=
  a.script.before.map .delivered ++ (Issued.trace table.next a.trio.blinkers a.script.blinks ++
    ((match (a.issued table).error with
      | some _ => []
      | none => (a.awaited table).map .delivered ++ takeTrace (a.issued table).ids a.script)
    ++ (a.issued table).ids.map .closed))

theorem issued_eq : (a.issued table).table =
      table.replay (a.script.before.map .delivered ++ Issued.trace table.next a.trio.blinkers a.script.blinks) ∧
    (a.issued table).ids = Issued.sentIds table.next a.answers ∧
    (a.issued table).error = Issued.refusal a.answers ∧
    (a.issued table).table.next = Issued.nextId table.next a.answers := by
  have hissued := Issued.blinkAll_eq (s := { table := table.deliverAll a.script.before }) rfl
    a.trio.blinkers a.script.blinks
  unfold issued answers
  simpa only [ExchangeTable.next_deliverAll, List.nil_append, ExchangeTable.replay_append,
    ExchangeTable.replay_delivered] using hissued

-- An attempt of which a request is refused.
theorem perform_of_refused {e : TransportError} (hrefused : (a.issued table).error = some e) :
    (config.perform table a.trio a.script).result = some (.error (.transport e)) ∧
    (config.perform table a.trio a.script).table =
      (a.issued table).ids.foldl ExchangeTable.purge (a.issued table).table := by
  have hfinish : (a.issued table).finish config a.trio a.script =
      (some (.error (.transport e)), (a.issued table).ids.foldl ExchangeTable.purge (a.issued table).table) := by
    rw [Issued.finish, hrefused]
  exact ⟨congrArg Prod.fst hfinish, congrArg Prod.snd hfinish⟩

-- What the engine makes of the exchanges that it has taken.
def conclude (exchanges : List (Option Exchange)) : Option (Except RangingError TwrOutcome) :=
  config.conclude exchanges a.trio.first a.trio.reference a.trio.listener.isSome

-- The table when the wait is over.
def waited : ExchangeTable := (a.issued table).table.deliverAll (a.awaited table)

variable {table a} in
theorem ids_of_sent (hsent : (a.issued table).error = none) :
    (a.issued table).ids = [table.next, table.next + 1, table.next + 1 + 1] := by
  obtain ⟨-, hids, herror, -⟩ := a.issued_eq table
  rw [hids]
  exact (Issued.sent_three table.next (herror.symm.trans hsent)).1

-- An attempt of which all requests go out. Its exchanges are gone even if a sum stops the program.
theorem perform_of_sent (hsent : (a.issued table).error = none) :
    (config.perform table a.trio a.script).result =
      a.conclude config (takeThree (a.waited table) (a.issued table).ids a.script).1 ∧
    (config.perform table a.trio a.script).table =
      (a.issued table).ids.foldl ExchangeTable.purge (takeThree (a.waited table) (a.issued table).ids a.script).2 := by
  have hids := ids_of_sent hsent
  have hfinish : (a.issued table).finish config a.trio a.script =
      (a.conclude config (takeThree (a.waited table) (a.issued table).ids a.script).1,
        if (a.conclude config (takeThree (a.waited table) (a.issued table).ids a.script).1).isSome then
          (a.issued table).ids.foldl ExchangeTable.purge (takeThree (a.waited table) (a.issued table).ids a.script).2
        else (takeThree (a.waited table) (a.issued table).ids a.script).2) := by
    rw [Issued.finish, hsent, waited, awaited, ← ExchangeTable.await_eq_deliverAll]
    rfl
  refine ⟨congrArg Prod.fst hfinish, (congrArg Prod.snd hfinish).trans ?_⟩
  split
  · rfl
  · rw [hids, purges_takeThree]

theorem perform_state : (config.perform table a.trio a.script).state =
    RangingState.after (config.perform table a.trio a.script).result := rfl

-- The trace tells all that an attempt does to the table.
theorem perform_table : (config.perform table a.trio a.script).table = table.replay (a.trace table) := by
  obtain ⟨htable, _, _, _⟩ := a.issued_eq table
  unfold trace
  rw [← List.append_assoc, ExchangeTable.replay_append, ← htable, ExchangeTable.replay_append,
    ExchangeTable.replay_closed]
  cases herror : (a.issued table).error with
  | some e => exact (a.perform_of_refused table config herror).2
  | none =>
    rw [(a.perform_of_sent table config herror).2, takeThree_table, ExchangeTable.replay_append,
      ExchangeTable.replay_delivered]
    rfl

-- The ids that follow depend only on the answers.
theorem perform_next :
    (config.perform table a.trio a.script).table.next = Issued.nextId table.next a.answers := by
  obtain ⟨_, _, _, hnext⟩ := a.issued_eq table
  rw [← hnext]
  cases herror : (a.issued table).error with
  | some e => rw [(a.perform_of_refused table config herror).2, ExchangeTable.next_purges]
  | none =>
    rw [(a.perform_of_sent table config herror).2, ExchangeTable.next_purges, takeThree_next, waited,
      ExchangeTable.next_deliverAll]

end Attempt

end UwbRanging
