import Mathlib.Data.List.Forall2
import UwbRanging.Proofs.Engine.Trace

namespace UwbRanging

theorem BlinkId.ne_add_one (id : BlinkId) : id ≠ id + 1 := by simp

theorem BlinkId.ne_add_two (id : BlinkId) : id ≠ id + 1 + 1 := by
  rw [UInt64.add_assoc, ne_eq, UInt64.left_eq_add]
  decide

-- Two exchanges look the same to an engine that asks for the records of two devices.
structure Exchange.Alike (p q : Eui64) (x y : Exchange) : Prop where
  first : x.get? p = y.get? p
  second : x.get? q = y.get? q
  silence : x.isEmpty = y.isEmpty

theorem Exchange.alike_of_shows {p q : Eui64} {id : BlinkId} {trace trace' : List TableEvent} {x y : Exchange}
    (hx : x.Shows (TableEvent.window id trace)) (hy : y.Shows (TableEvent.window id trace'))
    (hsame : TableEvent.SameEvidence p q id trace trace') : Alike p q x y := by
  refine ⟨?_, ?_, ?_⟩
  · rw [hx.get?_eq, hy.get?_eq, hsame.first]
  · rw [hx.get?_eq, hy.get?_eq, hsame.second]
  · rw [hx.isEmpty_eq, hy.isEmpty_eq, Bool.eq_iff_iff, List.isEmpty_iff, List.isEmpty_iff, hsame.silence]

theorem SlotRecords.ofSlot_congr {p q : Eui64} {x x' y y' z z' : Exchange} (hx : x.Alike p q x')
    (hy : y.Alike p q y') (hz : z.Alike p q z') (waited : Nat) (slot : Slot) :
    ofSlot [some x, some y, some z] p q waited slot = ofSlot [some x', some y', some z'] p q waited slot := by
  cases slot <;> simp [ofSlot, Slot.blink, Slot.onFirstClock, hx.first, hx.second, hx.silence, hy.first, hy.second,
    hy.silence, hz.first, hz.second, hz.silence]

section Staggered

variable (a b c : BlinkId) (before afterFirst afterSecond together beforeSecond beforeThird : List Delivery)

-- Three exchanges that are opened one after another, with reports filed meanwhile.
def openedInTurn : List TableEvent :=
  before.map .delivered ++ .opened a :: (afterFirst.map .delivered ++ .opened b ::
    (afterSecond.map .delivered ++ .opened c :: together.map .delivered))

-- They are closed in the same order.
def closedInTurn (after : List TableEvent) : List TableEvent :=
  .closed a :: (beforeSecond.map .delivered ++ .closed b :: (beforeThird.map .delivered ++ .closed c :: after))

-- Each exchange that is taken shows what was filed for it while it was open, whatever was open besides.
theorem exists_taken_inTurn (t : ExchangeTable) {a b c : BlinkId} (hab : a ≠ b) (hac : a ≠ c) (hbc : b ≠ c)
    (after : List TableEvent) :
    let opening := openedInTurn a b c before afterFirst afterSecond together
    let trace := opening ++ closedInTurn a b c beforeSecond beforeThird after
    let second := ((t.replay opening).purge a).deliverAll beforeSecond
    let third := (second.purge b).deliverAll beforeThird
    ∃ x y z, (t.replay opening).find? a = some x ∧ second.find? b = some y ∧ third.find? c = some z ∧
      x.Shows (TableEvent.window a trace) ∧ y.Shows (TableEvent.window b trace) ∧
      z.Shows (TableEvent.window c trace) := by
  intro opening trace second third
  obtain ⟨x, hx, hxs⟩ := t.find?_replay_opened a (before.map .delivered)
    (afterFirst.map .delivered ++ .opened b :: (afterSecond.map .delivered ++ .opened c :: together.map .delivered))
    (beforeSecond.map .delivered ++ .closed b :: (beforeThird.map .delivered ++ .closed c :: after))
    (by simp) (by simp [hab, hac]) (by simp)
  obtain ⟨y, hy, hys⟩ := t.find?_replay_opened b
    (before.map .delivered ++ .opened a :: afterFirst.map .delivered)
    (afterSecond.map .delivered ++ .opened c :: (together.map .delivered ++
      .closed a :: beforeSecond.map .delivered))
    (beforeThird.map .delivered ++ .closed c :: after)
    (by simp [hab.symm]) (by simp [hbc]) (by simp [hab.symm])
  obtain ⟨z, hz, hzs⟩ := t.find?_replay_opened c
    (before.map .delivered ++ .opened a :: (afterFirst.map .delivered ++ .opened b :: afterSecond.map .delivered))
    (together.map .delivered ++ .closed a :: (beforeSecond.map .delivered ++
      .closed b :: beforeThird.map .delivered))
    after
    (by simp [hac.symm, hbc.symm]) (by simp) (by simp [hac.symm, hbc.symm])
  refine ⟨x, y, z, ?_, ?_, ?_, ?_, ?_, ?_⟩
  · simpa [opening, openedInTurn] using hx
  · simpa [second, opening, openedInTurn] using hy
  · simpa [third, second, opening, openedInTurn] using hz
  · simpa [trace, opening, openedInTurn, closedInTurn] using hxs
  · simpa [trace, opening, openedInTurn, closedInTurn] using hys
  · simpa [trace, opening, openedInTurn, closedInTurn] using hzs

end Staggered

namespace Attempt

variable (table table' : ExchangeTable) (a a' : Attempt) (config : RangingConfig)

-- If all requests of an attempt go out, it takes three exchanges, and each shows what the trace files
-- for it while it is open.
theorem exists_taken (hsent : Issued.refusal a.answers = none) :
    ∃ x y z, (takeThree (a.waited table) (a.issued table).ids a.script).1 = [some x, some y, some z] ∧
      x.Shows (TableEvent.window table.next (a.trace table)) ∧
      y.Shows (TableEvent.window (table.next + 1) (a.trace table)) ∧
      z.Shows (TableEvent.window (table.next + 1 + 1) (a.trace table)) ∧
      ∀ id ∈ [table.next, table.next + 1, table.next + 1 + 1], .opened id ∈ a.trace table := by
  obtain ⟨htable, hids, herror, _⟩ := a.issued_eq table
  rw [hsent] at herror
  obtain ⟨hthree, ds, ds', ds'', hissued⟩ := Issued.sent_three table.next hsent
  have hids' : (a.issued table).ids = [table.next, table.next + 1, table.next + 1 + 1] := hids.trans hthree
  let together := ds'' ++ (a.awaited table ++ a.script.beforeFirst)
  let opening := openedInTurn table.next (table.next + 1) (table.next + 1 + 1) a.script.before ds ds' together
  have hopening : (a.waited table).deliverAll a.script.beforeFirst = table.replay opening := by
    unfold waited
    rw [htable, Trio.blinkers, hissued]
    simp [opening, together, openedInTurn]
  have htrace : a.trace table = opening ++ closedInTurn table.next (table.next + 1) (table.next + 1 + 1)
      a.script.beforeSecond a.script.beforeThird ((a.issued table).ids.map .closed) := by
    unfold trace
    rw [herror, Trio.blinkers, hissued, hids']
    simp [opening, together, openedInTurn, closedInTurn, takeTrace]
  obtain ⟨x, y, z, hx, hy, hz, hxs, hys, hzs⟩ := exists_taken_inTurn a.script.before ds ds' together
    a.script.beforeSecond a.script.beforeThird table (BlinkId.ne_add_one _) (BlinkId.ne_add_two _)
    (BlinkId.ne_add_one _) ((a.issued table).ids.map .closed)
  rw [← htrace] at hxs hys hzs
  refine ⟨x, y, z, ?taken, hxs, hys, hzs, ?opened⟩
  case taken =>
    rw [hids', ← hx, ← hy, ← hz]
    simp only [takeThree, ExchangeTable.take, hopening, opening]
  case opened =>
    intro id hid
    rw [htrace]
    simp only [List.mem_cons, List.not_mem_nil, or_false] at hid
    rcases hid with rfl | rfl | rfl <;> simp [opening, openedInTurn]

-- The arguments of an attempt and the answers that it gets to its requests.
structure SameRequests (a a' : Attempt) : Prop where
  trio : a.trio = a'.trio
  answers : a.answers = a'.answers

variable {table table' a a'}

-- An attempt sees of its table only what is filed for its own exchanges while they are open.
theorem perform_congr (hnext : table.next = table'.next) (hsame : a.SameRequests a')
    (hevidence : ∀ id, .opened id ∈ a.trace table →
      TableEvent.SameEvidence a.trio.first a.trio.reference id (a.trace table) (a'.trace table')) :
    (config.perform table a.trio a.script).result = (config.perform table' a'.trio a'.script).result ∧
      (config.perform table a.trio a.script).state = (config.perform table' a'.trio a'.script).state := by
  have hresult : (config.perform table a.trio a.script).result =
      (config.perform table' a'.trio a'.script).result := by
    obtain ⟨_, _, herror, _⟩ := a.issued_eq table
    obtain ⟨_, _, herror', _⟩ := a'.issued_eq table'
    rw [← hsame.answers] at herror'
    cases hrefusal : Issued.refusal a.answers with
    | some e =>
      rw [hrefusal] at herror herror'
      rw [(a.perform_of_refused table config herror).1, (a'.perform_of_refused table' config herror').1]
    | none =>
      obtain ⟨x, y, z, htaken, hx, hy, hz, hopened⟩ := a.exists_taken table hrefusal
      have hrefusal' := hrefusal
      rw [hsame.answers] at hrefusal'
      obtain ⟨x', y', z', htaken', hx', hy', hz', _⟩ := a'.exists_taken table' hrefusal'
      rw [← hnext] at hx' hy' hz'
      rw [hrefusal] at herror herror'
      rw [(a.perform_of_sent table config herror).1, (a'.perform_of_sent table' config herror').1, htaken, htaken']
      have halike := Exchange.alike_of_shows hx hx' (hevidence _ (hopened _ (by simp)))
      have halike' := Exchange.alike_of_shows hy hy' (hevidence _ (hopened _ (by simp)))
      have halike'' := Exchange.alike_of_shows hz hz' (hevidence _ (hopened _ (by simp)))
      unfold conclude RangingConfig.conclude SlotRecords.collect
      simp only [← hsame.trio, SlotRecords.ofSlot_congr halike halike' halike'']
  refine ⟨hresult, ?_⟩
  rw [a.perform_state, a'.perform_state, hresult]

end Attempt

-- One attempt of a series: the table as the attempt found it, what the table went through, and what came of it.
structure Episode where
  table : ExchangeTable
  attempt : Attempt
  trace : List TableEvent
  run : Run

namespace RangingConfig

def episode (config : RangingConfig) (table : ExchangeTable) (a : Attempt) : Episode :=
  ⟨table, a, a.trace table, config.perform table a.trio a.script⟩

-- Attempts one after another on one table. What is reported in between belongs to the next one. If a sum stops the
-- program, the series is that of a caller who goes on all the same.
def series (config : RangingConfig) (table : ExchangeTable) : List Attempt → List Episode
  | [] => []
  | a :: rest => config.episode table a :: config.series (config.episode table a).run.table rest

variable (config : RangingConfig)

-- In two series with the same requests the attempts are paired, and they get the same ids.
theorem exists_episode {table table' : ExchangeTable} {attempts attempts' : List Attempt} {i : Nat} {e e' : Episode}
    (hnext : table.next = table'.next) (hsame : List.Forall₂ Attempt.SameRequests attempts attempts')
    (he : (config.series table attempts)[i]? = some e) (he' : (config.series table' attempts')[i]? = some e') :
    ∃ t t' a a', t.next = t'.next ∧ a.SameRequests a' ∧ e = config.episode t a ∧ e' = config.episode t' a' := by
  induction hsame generalizing table table' i with
  | nil =>
    rw [series, List.getElem?_nil] at he
    cases he
  | @cons a a' rest rest' hrequests _ ih =>
    unfold series at he he'
    cases i with
    | zero =>
      simp only [List.getElem?_cons_zero, Option.some.injEq] at he he'
      exact ⟨table, table', a, a', hnext, hrequests, he.symm, he'.symm⟩
    | succ i =>
      rw [List.getElem?_cons_succ] at he he'
      refine ih ?_ he he'
      unfold episode
      rw [a.perform_next, a'.perform_next, hnext, hrequests.answers]

-- Attempts are isolated. Two series with the same requests may differ in all that is reported, but an
-- attempt for whose exchanges the same records came last in both, and on each of which nobody reported
-- in one if nobody did in the other, gives the same result. So it does if reports come in another order
-- than that of each device on each exchange, or for other exchanges.
theorem series_isolated {table : ExchangeTable} {attempts attempts' : List Attempt} {i : Nat} {e e' : Episode}
    (hsame : List.Forall₂ Attempt.SameRequests attempts attempts')
    (he : (config.series table attempts)[i]? = some e) (he' : (config.series table attempts')[i]? = some e') :
    ((∀ id, .opened id ∈ e.trace →
        TableEvent.SameEvidence e.attempt.trio.first e.attempt.trio.reference id e.trace e'.trace) →
      e.run.result = e'.run.result ∧ e.run.state = e'.run.state) ∧
    (TableEvent.Rearranged (fun id => .opened id ∈ e.trace) e.trace e'.trace →
      e.run.result = e'.run.result ∧ e.run.state = e'.run.state) := by
  obtain ⟨t, t', a, a', hnext, hrequests, rfl, rfl⟩ := config.exists_episode rfl hsame he he'
  refine ⟨?evidence, ?rearranged⟩
  case evidence =>
    intro hevidence
    exact Attempt.perform_congr config hnext hrequests hevidence
  case rearranged =>
    intro hrearranged
    refine Attempt.perform_congr config hnext hrequests ?_
    intro id hid
    exact hrearranged.sameEvidence hid _ _

end RangingConfig

-- The report of an empty record.
def Delivery.blank (id : BlinkId) (device : UInt64) : Delivery := ⟨id, ⟨⟨device⟩, none, {}⟩⟩

-- An attempt of two devices, and what is reported while the engine waits.
def Attempt.ofReports (waiting : List Delivery) : Attempt where
  trio := { dut := ⟨1⟩, reference := ⟨2⟩ }
  script := { waiting := waiting }

-- In the other series a report on the first attempt comes late, and two devices report in the other order.
theorem RangingConfig.series_isolated_lateReport :
    let first := Attempt.ofReports [.blank 1 1, .blank 1 2, .blank 2 1, .blank 2 2, .blank 3 1, .blank 3 2]
    let second := Attempt.ofReports [.blank 4 1, .blank 4 2, .blank 5 1, .blank 5 2, .blank 6 1, .blank 6 2]
    let stirred := Attempt.ofReports [.blank 1 2, .blank 4 2, .blank 4 1, .blank 5 1, .blank 5 2, .blank 6 1, .blank 6 2]
    let series := RangingConfig.series {} {} [first, second]
    let series' := RangingConfig.series {} {} [first, stirred]
    series[1]?.map (·.run.result) = series'[1]?.map (·.run.result) ∧
      series[1]?.map (·.run.state) = series'[1]?.map (·.run.state) := by
  intro first second stirred series series'
  let table := (RangingConfig.episode {} {} first).run.table
  have he : series[1]? = some (RangingConfig.episode {} table second) := rfl
  have he' : series'[1]? = some (RangingConfig.episode {} table stirred) := rfl
  have htrace : second.trace table = [.opened 4, .opened 5, .opened 6] ++
      (.delivered (.blank 4 1) :: .delivered (.blank 4 2) :: [.blank 5 1, .blank 5 2, .blank 6 1, .blank 6 2].map
        .delivered ++ [.closed 4, .closed 5, .closed 6, .closed 4, .closed 5, .closed 6]) := by decide
  have htrace' : stirred.trace table = [.opened 4, .opened 5, .opened 6] ++ .delivered (.blank 1 2) ::
      (.delivered (.blank 4 2) :: .delivered (.blank 4 1) :: [.blank 5 1, .blank 5 2, .blank 6 1, .blank 6 2].map
        .delivered ++ [.closed 4, .closed 5, .closed 6, .closed 4, .closed 5, .closed 6]) := by decide
  have hrearranged : TableEvent.Rearranged (fun id => .opened id ∈ second.trace table) (second.trace table)
      (stirred.trace table) := by
    have hother : ¬ (.opened 1 ∈ second.trace table) := by decide
    rw [htrace] at hother ⊢
    rw [htrace']
    refine .cons _ (.cons _ (.cons _ (.trans (.swap _ _ _ ?_) (.add _ _ hother))))
    exact .inr (by decide)
  have hsame : List.Forall₂ Attempt.SameRequests [first, second] [first, stirred] :=
    .cons ⟨rfl, rfl⟩ (.cons ⟨rfl, rfl⟩ .nil)
  obtain ⟨hevidence, hreordered⟩ := RangingConfig.series_isolated {} hsame he he'
  rw [he, he']
  have hresult := (hevidence fun id hid => hrearranged.sameEvidence hid _ _).1
  have hstate := (hreordered hrearranged).2
  exact ⟨congrArg some hresult, congrArg some hstate⟩

end UwbRanging
