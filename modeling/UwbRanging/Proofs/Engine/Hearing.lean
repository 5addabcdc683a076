import UwbRanging.Proofs.Engine.Isolation
import UwbRanging.Proofs.Exchange.Waiting

namespace UwbRanging

namespace ExchangeTable

variable (t : ExchangeTable) (ids : List BlinkId) (devices : List Eui64) (ds : List Delivery)

-- A wait is over when all is complete, and else with the last report.
theorem awaited_eq_or_isComplete :
    t.awaited ids devices ds = ds ∨ (t.deliverAll (t.awaited ids devices ds)).isComplete ids devices = true := by
  induction ds generalizing t with
  | nil => exact .inl rfl
  | cons d ds ih =>
    by_cases hcomplete : t.isComplete ids devices = true
    · rw [awaited, if_pos hcomplete]
      exact .inr hcomplete
    · rw [awaited, if_neg hcomplete]
      exact (ih (t.deliver d)).imp_left (congrArg (d :: ·))

theorem awaited_sublist : (t.awaited ids devices ds).Sublist ds := by
  induction ds generalizing t with
  | nil => exact .slnil
  | cons d ds ih =>
    unfold awaited
    split
    · exact List.nil_sublist _
    · exact (ih _).cons_cons d

end ExchangeTable

namespace Script

-- What is reported after a blink was asked for and before the wait is over.
def inTime (s : Script) (i : Nat) : List Delivery := ((s.blinks.take 3).drop i).flatMap (·.reports) ++ s.waiting

-- All that is reported during an attempt.
def reported (s : Script) : List Delivery :=
  s.before ++ (s.inTime 0 ++ (s.beforeFirst ++ (s.beforeSecond ++ s.beforeThird)))

end Script

namespace BlinkId

-- The id of a blink of an attempt.
def nth (first : BlinkId) : Nat → BlinkId
  | 0 => first
  | i + 1 => nth (first + 1) i

theorem nth_eq (first : BlinkId) (i : Nat) : nth first i = first + UInt64.ofNat i := by
  induction i generalizing first with
  | zero => exact (UInt64.add_zero first).symm
  | succ i ih => rw [nth, ih, ExchangeTable.add_ofNat_succ]

theorem nth_inj (first : BlinkId) {i j : Nat} (hi : i < 3) (hj : j < 3) (h : nth first i = nth first j) : i = j := by
  rw [nth_eq, nth_eq] at h
  exact ExchangeTable.add_ofNat_inj first (by omega) (by omega) h

end BlinkId

namespace Issued

theorem trace_three (id : BlinkId) {x y z : Eui64} {steps : List BlinkStep}
    (hsent : refusal (answers [x, y, z] steps) = none) : trace id [x, y, z] steps =
      .opened id :: ((steps.getD 0 {}).reports.map .delivered ++
        .opened (id + 1) :: ((steps.getD 1 {}).reports.map .delivered ++
          .opened (id + 1 + 1) :: (steps.getD 2 {}).reports.map .delivered)) := by
  obtain ⟨hsecond, -, htrace⟩ := sent_cons id hsent
  obtain ⟨hthird, -, htrace'⟩ := sent_cons (id + 1) hsecond
  obtain ⟨-, -, htrace''⟩ := sent_cons (id + 1 + 1) hthird
  rw [htrace, htrace', htrace'', trace, List.append_nil]
  rcases steps with - | ⟨first, - | ⟨second, - | ⟨third, rest⟩⟩⟩ <;> rfl

theorem answers_of_sent {devices : List Eui64} {steps : List BlinkStep}
    (hsent : refusal (answers devices steps) = none) :
    answers devices steps = devices.map fun _ => .ok () := by
  induction devices generalizing steps with
  | nil => rfl
  | cons device devices ih =>
    rw [answers] at hsent ⊢
    cases hanswer : (steps.headD {}).sent with
    | error e =>
      rw [hanswer] at hsent
      cases hsent
    | ok _ =>
      rw [hanswer] at hsent
      exact congrArg (Except.ok () :: ·) (ih hsent)

theorem exists_of_answers {devices : List Eui64} {steps : List BlinkStep} {i : Nat} {answer : Except TransportError Unit}
    (h : (answers devices steps)[i]? = some answer) :
    ∃ device, devices[i]? = some device ∧ (steps.getD i {}).sent = answer := by
  induction devices generalizing steps i with
  | nil => cases h
  | cons device devices ih =>
    have hfirst : steps.headD {} = steps.getD 0 {} := by cases steps <;> rfl
    have hrest (i : Nat) : steps.tail.getD i {} = steps.getD (i + 1) {} := by cases steps <;> rfl
    rw [answers] at h
    cases i with
    | zero =>
      refine ⟨device, rfl, ?_⟩
      rw [← hfirst]
      cases hanswer : (steps.headD {}).sent <;> rw [hanswer] at h <;> exact Option.some.inj h
    | succ i =>
      cases hanswer : (steps.headD {}).sent with
      | error e =>
        rw [hanswer] at h
        cases h
      | ok _ =>
        rw [hanswer] at h
        exact hrest i ▸ ih h

theorem refusal_eq_none {answers : List (Except TransportError Unit)} (h : ∀ e, .error e ∉ answers) :
    refusal answers = none := by
  induction answers with
  | nil => rfl
  | cons answer answers ih =>
    cases answer with
    | error e => exact absurd List.mem_cons_self (h e)
    | ok _ => exact ih fun e he => h e (List.mem_cons_of_mem _ he)

end Issued

section Staggered

variable {a b c : BlinkId} (before afterFirst afterSecond together beforeSecond beforeThird : List Delivery)

-- What is filed for an exchange by some reports.
def recordsFor (id : BlinkId) (ds : List Delivery) : List TimestampRecord :=
  ds.filterMap fun d => TableEvent.recordFor id (.delivered d)

theorem mem_recordsFor {id : BlinkId} {r : TimestampRecord} {ds : List Delivery} :
    r ∈ recordsFor id ds ↔ ⟨id, r⟩ ∈ ds := by
  rw [recordsFor, List.mem_filterMap]
  constructor
  · rintro ⟨⟨other, record⟩, hd, hrecord⟩
    by_cases hid : other = id
    · subst hid
      cases (if_pos rfl).symm.trans hrecord
      exact hd
    · cases (if_neg hid).symm.trans hrecord
  · exact fun h => ⟨_, h, if_pos rfl⟩

-- Of exchanges that are opened and closed in turn, each gets what is reported between its opening and its closing.
theorem window_inTurn (hab : a ≠ b) (hac : a ≠ c) (hbc : b ≠ c) (after : List TableEvent) :
    let trace := openedInTurn a b c before afterFirst afterSecond together ++
      closedInTurn a b c beforeSecond beforeThird after
    TableEvent.window a trace = recordsFor a (afterFirst ++ (afterSecond ++ together)) ∧
    TableEvent.window b trace = recordsFor b (afterSecond ++ (together ++ beforeSecond)) ∧
    TableEvent.window c trace = recordsFor c (together ++ (beforeSecond ++ beforeThird)) := by
  have hfirst : .opened a ∉ before.map TableEvent.delivered := by simp
  have hfirst' : .closed a ∉ afterFirst.map TableEvent.delivered ++ .opened b ::
      (afterSecond.map .delivered ++ .opened c :: together.map .delivered) := by simp
  have hsecond : .opened b ∉ before.map TableEvent.delivered ++ .opened a :: afterFirst.map .delivered := by
    simp [hab.symm]
  have hsecond' : .closed b ∉ afterSecond.map TableEvent.delivered ++ .opened c ::
      (together.map .delivered ++ .closed a :: beforeSecond.map .delivered) := by simp [hab.symm]
  have hthird : .opened c ∉ before.map TableEvent.delivered ++ .opened a ::
      (afterFirst.map .delivered ++ .opened b :: afterSecond.map .delivered) := by simp [hac.symm, hbc.symm]
  have hthird' : .closed c ∉ together.map TableEvent.delivered ++ .closed a ::
      (beforeSecond.map .delivered ++ .closed b :: beforeThird.map .delivered) := by simp [hac.symm, hbc.symm]
  have hx := TableEvent.window_eq
    (beforeSecond.map .delivered ++ .closed b :: (beforeThird.map .delivered ++ .closed c :: after)) hfirst hfirst'
  have hy := TableEvent.window_eq (beforeThird.map .delivered ++ .closed c :: after) hsecond hsecond'
  have hz := TableEvent.window_eq after hthird hthird'
  refine ⟨?_, ?_, ?_⟩
  · simpa [openedInTurn, closedInTurn, recordsFor, TableEvent.recordFor, List.filterMap_cons, Function.comp_def] using hx
  · simpa [openedInTurn, closedInTurn, recordsFor, TableEvent.recordFor, List.filterMap_cons, Function.comp_def] using hy
  · simpa [openedInTurn, closedInTurn, recordsFor, TableEvent.recordFor, List.filterMap_cons, Function.comp_def] using hz

end Staggered

namespace TableEvent

variable {device : Eui64} {records : List TimestampRecord}

theorem mem_of_lastRecord {r : TimestampRecord} (h : lastRecord device records = some r) :
    r ∈ records ∧ r.device = device := by
  obtain ⟨hr, hdevice⟩ := List.mem_filter.mp (List.mem_of_getLast? h)
  exact ⟨hr, by simpa using hdevice⟩

theorem exists_lastRecord {r : TimestampRecord} (hr : r ∈ records) :
    ∃ last, lastRecord r.device records = some last := by
  cases hlast : lastRecord r.device records with
  | some last => exact ⟨last, rfl⟩
  | none =>
    have hmem : r ∈ records.filter fun other => other.device == r.device := List.mem_filter.mpr ⟨hr, by simp⟩
    rw [List.getLast?_eq_none_iff.mp hlast] at hmem
    cases hmem

end TableEvent

namespace Attempt

variable (table : ExchangeTable) (a : Attempt)

-- What is reported right after a blink.
def reportsAfter (i : Nat) : List Delivery := (a.script.blinks.getD i {}).reports

-- What is filed after a blink was asked for until the wait is over.
def filed (i : Nat) : List Delivery := ((a.script.blinks.take 3).drop i).flatMap (·.reports) ++ a.awaited table

theorem filed_eq : a.filed table 0 = a.reportsAfter 0 ++ (a.reportsAfter 1 ++ (a.reportsAfter 2 ++ a.awaited table)) ∧
    a.filed table 1 = a.reportsAfter 1 ++ (a.reportsAfter 2 ++ a.awaited table) ∧
    a.filed table 2 = a.reportsAfter 2 ++ a.awaited table := by
  unfold filed reportsAfter
  rcases a.script.blinks with - | ⟨first, - | ⟨second, - | ⟨third, rest⟩⟩⟩ <;> simp

section Sent

variable (hsent : Issued.refusal a.answers = none)
include hsent

theorem issued_of_sent : (a.issued table).error = none ∧
    (a.issued table).ids = [table.next, table.next + 1, table.next + 1 + 1] ∧
    (a.issued table).table = table.replay (openedInTurn table.next (table.next + 1) (table.next + 1 + 1)
      a.script.before (a.reportsAfter 0) (a.reportsAfter 1) (a.reportsAfter 2)) := by
  obtain ⟨htable, hids, herror, -⟩ := a.issued_eq table
  refine ⟨herror.trans hsent, hids.trans (Issued.sent_three table.next hsent).1, ?_⟩
  rw [htable, Trio.blinkers, Issued.trace_three table.next hsent]
  rfl

theorem waited_of_sent : a.waited table = table.replay (openedInTurn table.next (table.next + 1) (table.next + 1 + 1)
    a.script.before (a.reportsAfter 0) (a.reportsAfter 1) (a.reportsAfter 2 ++ a.awaited table)) := by
  rw [waited, (a.issued_of_sent table hsent).2.2]
  simp [openedInTurn]

theorem trace_of_sent : a.trace table = openedInTurn table.next (table.next + 1) (table.next + 1 + 1)
      a.script.before (a.reportsAfter 0) (a.reportsAfter 1)
      (a.reportsAfter 2 ++ (a.awaited table ++ a.script.beforeFirst)) ++
    closedInTurn table.next (table.next + 1) (table.next + 1 + 1) a.script.beforeSecond a.script.beforeThird
      ([table.next, table.next + 1, table.next + 1 + 1].map .closed) := by
  obtain ⟨herror, hids, -⟩ := a.issued_of_sent table hsent
  rw [trace, herror, hids, Trio.blinkers, Issued.trace_three table.next hsent]
  simp [openedInTurn, closedInTurn, takeTrace, reportsAfter]

-- What the exchange of a blink gets: what is filed until the wait is over, and what comes before it is taken.
theorem window_of_sent {i : Nat} (hi : i < 3) :
    ∃ late, (∀ d ∈ late, d ∈ a.script.beforeFirst ++ (a.script.beforeSecond ++ a.script.beforeThird)) ∧
      TableEvent.window (table.next.nth i) (a.trace table) =
        recordsFor (table.next.nth i) (a.filed table i ++ late) := by
  obtain ⟨hfirst, hsecond, hthird⟩ := a.filed_eq table
  obtain ⟨hx, hy, hz⟩ := window_inTurn a.script.before (a.reportsAfter 0) (a.reportsAfter 1)
    (a.reportsAfter 2 ++ (a.awaited table ++ a.script.beforeFirst)) a.script.beforeSecond a.script.beforeThird
    (BlinkId.ne_add_one table.next) (BlinkId.ne_add_two table.next) (BlinkId.ne_add_one (table.next + 1))
    ([table.next, table.next + 1, table.next + 1 + 1].map .closed)
  rw [← a.trace_of_sent table hsent] at hx hy hz
  match i with
  | 0 =>
    refine ⟨a.script.beforeFirst, fun d => List.mem_append_left _, ?_⟩
    rw [hfirst]
    simpa [BlinkId.nth] using hx
  | 1 =>
    refine ⟨a.script.beforeFirst ++ a.script.beforeSecond, fun d hd => ?_, ?_⟩
    · rw [← List.append_assoc]
      exact List.mem_append_left _ hd
    · rw [hsecond]
      simpa [BlinkId.nth] using hy
  | 2 =>
    refine ⟨a.script.beforeFirst ++ (a.script.beforeSecond ++ a.script.beforeThird), fun _ => id, ?_⟩
    rw [hthird]
    simpa [BlinkId.nth] using hz

-- What the exchange of a blink shows when the wait is over.
theorem exists_waited {i : Nat} (hi : i < 3) : ∃ x, (a.waited table).find? (table.next.nth i) = some x ∧
    x.Shows (recordsFor (table.next.nth i) (a.filed table i)) := by
  obtain ⟨hfirst, hsecond, hthird⟩ := a.filed_eq table
  obtain ⟨x, y, z, hx, hy, hz, hxs, hys, hzs⟩ := exists_taken_inTurn a.script.before (a.reportsAfter 0)
    (a.reportsAfter 1) (a.reportsAfter 2 ++ a.awaited table) [] [] table (BlinkId.ne_add_one table.next)
    (BlinkId.ne_add_two table.next) (BlinkId.ne_add_one (table.next + 1)) []
  obtain ⟨hwx, hwy, hwz⟩ := window_inTurn a.script.before (a.reportsAfter 0) (a.reportsAfter 1)
    (a.reportsAfter 2 ++ a.awaited table) [] [] (BlinkId.ne_add_one table.next) (BlinkId.ne_add_two table.next)
    (BlinkId.ne_add_one (table.next + 1)) []
  rw [hwx] at hxs
  rw [hwy] at hys
  rw [hwz] at hzs
  rw [← a.waited_of_sent table hsent] at hx hy hz
  -- an exchange that is not closed yet is not touched when another one is taken
  have hkept {id other : BlinkId} (t : ExchangeTable) (hne : other ≠ id) :
      ((t.purge id).deliverAll []).find? other = t.find? other := t.find?_purge_of_ne hne
  match i with
  | 0 => exact ⟨x, hx, hfirst ▸ hxs⟩
  | 1 =>
    rw [hkept _ (BlinkId.ne_add_one _).symm] at hy
    exact ⟨y, hy, by simpa [hsecond, BlinkId.nth] using hys⟩
  | 2 =>
    rw [hkept _ (BlinkId.ne_add_one _).symm, hkept _ (BlinkId.ne_add_two _).symm] at hz
    exact ⟨z, hz, by simpa [hthird, BlinkId.nth] using hzs⟩

-- A wait that ends before all reports have come has got one of each device on each blink.
theorem exists_filed_of_isComplete (hcomplete : (a.waited table).isComplete (a.issued table).ids a.trio.reporters = true)
    {i : Nat} (hi : i < 3) {device : Eui64} (hdevice : device ∈ a.trio.reporters) :
    ∃ r, ⟨table.next.nth i, r⟩ ∈ a.filed table i ∧ r.device = device := by
  obtain ⟨-, hids, -⟩ := a.issued_of_sent table hsent
  obtain ⟨x, hx, hshows⟩ := a.exists_waited table hsent hi
  have hid : table.next.nth i ∈ (a.issued table).ids := by
    rw [hids]
    match i with
    | 0 => exact List.mem_cons_self
    | 1 => exact List.mem_cons_of_mem _ List.mem_cons_self
    | 2 => exact List.mem_cons_of_mem _ (List.mem_cons_of_mem _ List.mem_cons_self)
  obtain ⟨x', hx', hall⟩ := ExchangeTable.isComplete_iff.mp hcomplete _ hid
  obtain rfl := Option.some.inj (hx.symm.trans hx')
  obtain ⟨r, hr⟩ := Option.isSome_iff_exists.mp (List.all_eq_true.mp hall device hdevice)
  rw [hshows.get?_eq] at hr
  obtain ⟨hmem, hdevice⟩ := TableEvent.mem_of_lastRecord hr
  exact ⟨r, mem_recordsFor.mp hmem, hdevice⟩

end Sent

-- An attempt hears of its blinks what these lists tell: all that is in them comes in time, and nothing else is
-- reported on these blinks. Of every device there is at most one report on a blink, and on every blink there is one.
structure Hears (a : Attempt) (next : BlinkId) (reports : Nat → List Delivery) : Prop where
  ids : ∀ i < 3, ∀ d ∈ reports i, d.id = next.nth i
  once : ∀ i < 3, ((reports i).map (·.record.device)).Nodup
  present : ∀ i < 3, reports i ≠ []
  inTime : ∀ i < 3, ∀ d ∈ reports i, d ∈ a.script.inTime i
  only : ∀ i < 3, ∀ d ∈ a.script.reported, d.id = next.nth i → d ∈ reports i

namespace Hears

variable {table a} {reports : Nat → List Delivery}

theorem mem_of_window (h : a.Hears table.next reports) (hsent : Issued.refusal a.answers = none) {i : Nat} (hi : i < 3)
    {r : TimestampRecord} (hr : r ∈ TableEvent.window (table.next.nth i) (a.trace table)) :
    ⟨table.next.nth i, r⟩ ∈ reports i := by
  obtain ⟨late, hlate, hwindow⟩ := a.window_of_sent table hsent hi
  rw [hwindow, mem_recordsFor, List.mem_append] at hr
  refine h.only i hi _ (List.mem_append_right _ ?_) rfl
  have hawaited := ExchangeTable.awaited_sublist (a.issued table).table (a.issued table).ids a.trio.reporters
    a.script.waiting
  rcases hr with hr | hr
  · refine List.mem_append_left _ ?_
    rcases List.mem_append.mp hr with hr | hr
    · obtain ⟨step, hstep, hr⟩ := List.mem_flatMap.mp hr
      exact List.mem_append_left _ (List.mem_flatMap.mpr ⟨step, List.mem_of_mem_drop hstep, hr⟩)
    · exact List.mem_append_right _ (hawaited.subset hr)
  · exact List.mem_append_right _ (hlate _ hr)

-- Of a device that must report, the report on a blink gets to the exchange, unless the wait is over before it
-- comes, but then another one has.
theorem exists_window (h : a.Hears table.next reports) (hsent : Issued.refusal a.answers = none) {i : Nat} (hi : i < 3)
    {d : Delivery} (hd : d ∈ reports i) {device : Eui64} (hdevice : device ∈ a.trio.reporters) :
    (∃ r ∈ TableEvent.window (table.next.nth i) (a.trace table), r.device = device) ∨
      d.record ∈ TableEvent.window (table.next.nth i) (a.trace table) := by
  obtain ⟨late, -, hwindow⟩ := a.window_of_sent table hsent hi
  simp only [hwindow, mem_recordsFor]
  rcases ExchangeTable.awaited_eq_or_isComplete (a.issued table).table (a.issued table).ids a.trio.reporters
    a.script.waiting with hall | hcomplete
  · have hfiled : a.filed table i = a.script.inTime i := congrArg (_ ++ ·) hall
    right
    rw [hfiled, ← h.ids i hi d hd]
    exact List.mem_append_left _ (h.inTime i hi d hd)
  · obtain ⟨r, hr, hrdevice⟩ := a.exists_filed_of_isComplete table hsent hcomplete hi hdevice
    exact .inl ⟨r, List.mem_append_left _ hr, hrdevice⟩

-- The exchanges that such an attempt takes: none of them is empty, and each has of the devices that must report
-- just what they have reported on its blink.
theorem exists_exchange (h : a.Hears table.next reports) (hsent : Issued.refusal a.answers = none) {i : Nat}
    (hi : i < 3) :
    ∃ x, (takeThree (a.waited table) (a.issued table).ids a.script).1[i]? = some (some x) ∧ x.isEmpty = false ∧
      ∀ device ∈ a.trio.reporters, ∀ r, x.get? device = some r ↔
        ⟨table.next.nth i, r⟩ ∈ reports i ∧ r.device = device := by
  obtain ⟨x, y, z, htaken, hx, hy, hz, -⟩ := a.exists_taken table hsent
  obtain ⟨x, hx, hshows⟩ : ∃ x, (takeThree (a.waited table) (a.issued table).ids a.script).1[i]? = some (some x) ∧
      x.Shows (TableEvent.window (table.next.nth i) (a.trace table)) := by
    rw [htaken]
    match i with
    | 0 => exact ⟨x, rfl, hx⟩
    | 1 => exact ⟨y, rfl, hy⟩
    | 2 => exact ⟨z, rfl, hz⟩
  refine ⟨x, hx, ?_, fun device hdevice r => ?_⟩
  · obtain ⟨d, hd⟩ := List.exists_mem_of_ne_nil _ (h.present i hi)
    have hreporter : a.trio.first ∈ a.trio.reporters := List.mem_cons_self
    rw [hshows.isEmpty_eq, List.isEmpty_eq_false_iff]
    rcases h.exists_window hsent hi hd hreporter with ⟨r, hr, -⟩ | hr
    · exact List.ne_nil_of_mem hr
    · exact List.ne_nil_of_mem hr
  · rw [hshows.get?_eq]
    constructor
    · intro hr
      obtain ⟨hmem, hdevice⟩ := TableEvent.mem_of_lastRecord hr
      exact ⟨h.mem_of_window hsent hi hmem, hdevice⟩
    · rintro ⟨hd, rfl⟩
      obtain ⟨r', hr', hsame⟩ : ∃ r' ∈ TableEvent.window (table.next.nth i) (a.trace table), r'.device = r.device := by
        rcases h.exists_window hsent hi hd hdevice with hr | hr
        · exact hr
        · exact ⟨r, hr, rfl⟩
      obtain ⟨last, hlast⟩ := TableEvent.exists_lastRecord hr'
      rw [hsame] at hlast
      obtain ⟨hmem, hlastDevice⟩ := TableEvent.mem_of_lastRecord hlast
      have hequal := List.inj_on_of_nodup_map (h.once i hi) (h.mem_of_window hsent hi hmem) hd hlastDevice
      rw [hlast, (Delivery.mk.inj hequal).2]

end Hears

end Attempt

end UwbRanging
