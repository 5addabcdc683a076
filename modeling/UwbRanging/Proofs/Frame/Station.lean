import UwbRanging.Frame.Station
import UwbRanging.Proofs.Frame.Numbering

namespace UwbRanging

variable {ι κ : Type}

namespace StationEvent

variable [DecidableEq ι] {i : ι}

-- A number is handed out to a caller or to a frame, never to both.
theorem isFirstSend_of_isNext {event : StationEvent ι κ} (h : event.isNext i = true) : event.isFirstSend i = false := by
  cases event with
  | next j n => rfl
  | peek j n => cases h
  | encode k j before after outcome => cases h
  | place k f => cases h

theorem countP_isDraw (events : List (StationEvent ι κ)) :
    events.countP (isDraw i) = events.countP (isNext i) + events.countP (isFirstSend i) := by
  induction events with
  | nil => rfl
  | cons event events ih =>
    rw [List.countP_cons, List.countP_cons, List.countP_cons, ih, isDraw]
    cases hnext : event.isNext i with
    | true =>
      rw [isFirstSend_of_isNext hnext]
      simp only [Bool.true_or, if_true, Bool.false_eq_true, if_false]
      omega
    | false =>
      simp only [Bool.false_or, Bool.false_eq_true, if_false]
      omega

theorem given?_of_not_isDraw {event : StationEvent ι κ} (h : event.isDraw i = false) : event.given? i = none := by
  unfold given?
  rw [h]
  exact if_neg Bool.false_ne_true

end StationEvent

namespace Station

section Tables

variable {α β : Type} [DecidableEq α]

@[simp] theorem replace_same (table : α → β) (a : α) (b : β) : replace table a b a = b := if_pos rfl

theorem replace_other (table : α → β) {a x : α} (b : β) (h : x ≠ a) : replace table a b x = table x := if_neg h

@[simp] theorem replace_self (table : α → β) (a : α) : replace table a (table a) = table := by
  funext x
  by_cases hx : x = a
  · rw [hx, replace_same]
  · exact replace_other table _ hx

end Tables

-- The station holds a frame as it went out, and as it will go out again.
def Sent (s : Station ι κ) (k : κ) (bytes : List UInt8) : Prop :=
  ∀ counter, (s.frames k).encode counter = ⟨.ok bytes, s.frames k, counter⟩

theorem Sent.seq_isSome {s : Station ι κ} {k : κ} {bytes : List UInt8} (h : s.Sent k bytes) :
    (s.frames k).header.seq.isSome = true := by
  have hsent := h {}
  have hseq := Frame.seq_of_ok (congrArg Frame.Encoded.outcome hsent)
  rw [hsent] at hseq
  exact Option.isSome_of_eq_some hseq

variable [DecidableEq ι] [DecidableEq κ] {s : Station ι κ} {op : StationOp ι κ} {k : κ} {i : ι} {bytes : List UInt8}

theorem run_cons (s : Station ι κ) (op : StationOp ι κ) (rest : List (StationOp ι κ)) :
    s.run (op :: rest) = (s.step op).2.run rest := rfl

theorem run_append (s : Station ι κ) (done rest : List (StationOp ι κ)) :
    s.run (done ++ rest) = (s.run done).run rest := List.foldl_append

theorem run_concat (s : Station ι κ) (done : List (StationOp ι κ)) (op : StationOp ι κ) :
    s.run (done ++ [op]) = ((s.run done).step op).2 := run_append s done [op]

theorem trace_append (s : Station ι κ) (done rest : List (StationOp ι κ)) :
    s.trace (done ++ rest) = s.trace done ++ (s.run done).trace rest := by
  induction done generalizing s with
  | nil => rfl
  | cons op done ih =>
    rw [List.cons_append, trace, trace, ih, List.cons_append, run_cons]

theorem frames_step_encode (s : Station ι κ) (k : κ) (i : ι) :
    (s.step (.encode k i)).2.frames k = (s.send k i).frame := replace_same _ _ _

-- What encoding a frame with a counter does to this counter, if the frame is not refused for its payload.
theorem send_counter (hsettled : (s.step (.encode k i)).1.isSettled = true) :
    (s.step (.encode k i)).1.given? i =
        (if (s.step (.encode k i)).1.isDraw i then some (s.counters i).next else none) ∧
      (s.send k i).counter = if (s.step (.encode k i)).1.isDraw i then ⟨(s.counters i).next + 1⟩ else s.counters i := by
  have hdraw : (s.step (.encode k i)).1.isDraw i = ((s.frames k).header.seq.isNone && (s.send k i).outcome.isOk) := by
    simp [step, StationEvent.isDraw, StationEvent.isNext, StationEvent.isFirstSend]
  have hgiven : (s.step (.encode k i)).1.given? i =
      if (s.step (.encode k i)).1.isDraw i then (s.send k i).frame.header.seq else none := rfl
  rw [hgiven, hdraw]
  cases houtcome : (s.send k i).outcome with
  | error error =>
    have hsecurity : (s.frames k).header.security = true := by
      rw [step, houtcome] at hsettled
      rw [← Frame.outcome_eq_security_iff, ← of_decide_eq_true hsettled]
      exact houtcome
    have hsent : s.send k i = ⟨.error (.unsupported .security), s.frames k, s.counters i⟩ :=
      Frame.encode_of_security _ hsecurity
    rw [hsent]
    simp [Except.isOk, Except.toBool]
  | ok bytes =>
    have hseq := Frame.seq_of_ok houtcome
    have hcounter := Frame.counter_of_ok houtcome
    rw [send, hseq, hcounter]
    cases (s.frames k).header.seq <;> simp [Except.isOk, Except.toBool]

-- A counter that hands out a number hands out its next one, and moves on by one.
theorem step_counter (hsettled : (s.step op).1.isSettled = true) (i : ι) :
    (s.step op).1.given? i = (if (s.step op).1.isDraw i then some (s.counters i).next else none) ∧
      (s.step op).2.counters i = if (s.step op).1.isDraw i then ⟨(s.counters i).next + 1⟩ else s.counters i := by
  cases op with
  | next j =>
    by_cases hj : j = i
    · subst hj
      simp [step, SequenceCounter.draw, StationEvent.given?, StationEvent.isDraw, StationEvent.isNext, setCounter]
    · simp [step, StationEvent.given?, StationEvent.isDraw, StationEvent.isNext, StationEvent.isFirstSend, hj,
        setCounter, replace_other _ _ (Ne.symm hj)]
  | peek j => exact ⟨rfl, rfl⟩
  | encode k j =>
    by_cases hj : j = i
    · subst hj
      obtain ⟨hgiven, hcounter⟩ := send_counter hsettled
      refine ⟨hgiven, ?_⟩
      rw [← hcounter]
      exact replace_same _ _ _
    · have hdraw : (s.step (.encode k j)).1.isDraw i = false := by
        simp [step, StationEvent.isDraw, StationEvent.isNext, StationEvent.isFirstSend, hj]
      rw [StationEvent.given?_of_not_isDraw hdraw, hdraw]
      exact ⟨rfl, replace_other _ _ (Ne.symm hj)⟩
  | place k f => exact ⟨rfl, rfl⟩

theorem add_one_add_ofNat (n : UInt8) (m : Nat) : n + 1 + UInt8.ofNat m = n + UInt8.ofNat (m + 1) := by
  rw [UInt8.ofNat_add, UInt8.add_comm (UInt8.ofNat m), ← UInt8.add_assoc]
  rfl

-- The numbers that a counter hands out in the course of a session are consecutive.
theorem run_counter (s : Station ι κ) (ops : List (StationOp ι κ))
    (hsettled : ∀ event ∈ s.trace ops, event.isSettled = true) (i : ι) :
    (s.trace ops).filterMap (·.given? i) =
        (List.range ((s.trace ops).countP (·.isDraw i))).map (fun m => (s.counters i).next + UInt8.ofNat m) ∧
      ((s.run ops).counters i).next = (s.counters i).next + UInt8.ofNat ((s.trace ops).countP (·.isDraw i)) := by
  induction ops generalizing s with
  | nil => exact ⟨rfl, (UInt8.add_zero _).symm⟩
  | cons op ops ih =>
    rw [trace, List.forall_mem_cons] at hsettled
    obtain ⟨hgiven, hcounter⟩ := step_counter hsettled.1 i
    obtain ⟨hnumbers, hnext⟩ := ih _ hsettled.2
    rw [trace, run_cons, hnext, List.filterMap_cons, hnumbers, List.countP_cons, hgiven, hcounter]
    cases (s.step op).1.isDraw i with
    | false => simp
    | true =>
      have hshift : ∀ m, (s.counters i).next + 1 + UInt8.ofNat m = (s.counters i).next + UInt8.ofNat (m + 1) :=
        add_one_add_ofNat _
      simp [List.range_succ_eq_map, Function.comp_def, hshift]

-- A frame that has its number takes no other, and stays as it is.
theorem step_encode_of_seq (hseq : (s.frames k).header.seq.isSome = true) : (s.step (.encode k i)).2 = s := by
  obtain ⟨hframe, hcounter⟩ := Frame.encode_traceless_iff.mpr (Bool.or_eq_true_iff.mpr (.inr hseq))
  have hsend : (s.step (.encode k i)).2 = (s.setFrame k (s.send k i).frame).setCounter i (s.send k i).counter := rfl
  rw [hsend, send, hframe, hcounter, setFrame, replace_self]
  exact congrArg (fun counters => { s with counters := counters }) (replace_self s.counters i)

theorem sent_of_ok (h : (s.send k i).outcome = .ok bytes) : (s.step (.encode k i)).2.Sent k bytes := by
  intro later
  rw [frames_step_encode]
  exact Frame.encode_again h later

theorem Sent.frames_step (h : s.Sent k bytes) (hop : ∀ f, op ≠ .place k f) : (s.step op).2.frames k = s.frames k := by
  cases op with
  | next j => rfl
  | peek j => rfl
  | encode l j =>
    by_cases hl : k = l
    · subst hl
      rw [frames_step_encode, send, h]
    · exact replace_other _ _ hl
  | place l f =>
    have hl : k ≠ l := by
      rintro rfl
      exact hop f rfl
    exact replace_other _ _ hl

theorem Sent.run {ops : List (StationOp ι κ)} (h : s.Sent k bytes) (hops : ∀ f, .place k f ∉ ops) :
    (s.run ops).Sent k bytes := by
  induction ops generalizing s with
  | nil => exact h
  | cons op ops ih =>
    refine ih ?_ fun f hf => hops f (List.mem_cons_of_mem op hf)
    intro counter
    rw [h.frames_step fun f hop => hops f (hop ▸ List.mem_cons_self)]
    exact h counter

-- How the numbers go in the course of a session.
structure Numbered (s : Station ι κ) (ops : List (StationOp ι κ)) : Prop where
  -- a counter shows, at any time, how often it was asked for a number and how many frames it gave one
  shown : ∀ done, done <+: ops → ∀ i, ∃ n, (s.run done).step (.peek i) = (.peek i n, s.run done) ∧
    n.toNat = ((s.counters i).next.toNat + (s.trace done).countP (StationEvent.isNext i) +
      (s.trace done).countP (StationEvent.isFirstSend i)) % 256
  -- it hands them out in their order, whatever happens to the others
  given : ∀ i, ((s.trace ops).filterMap (·.given? i)).map UInt8.toNat =
    (List.range ((s.trace ops).countP (StationEvent.isNext i) +
      (s.trace ops).countP (StationEvent.isFirstSend i))).map fun m => ((s.counters i).next.toNat + m) % 256
  -- a frame that goes out holds the number that it goes out under
  sent : ∀ done k i bytes, done ++ [.encode k i] <+: ops → ((s.run done).send k i).outcome = .ok bytes →
    ∃ n, bytes[2]? = some n ∧ ((s.run (done ++ [.encode k i])).frames k).header.seq = some n
  -- a frame that has a number keeps it, and takes none
  own : ∀ done k i, done ++ [.encode k i] <+: ops → ((s.run done).frames k).header.seq.isSome = true →
    s.run (done ++ [.encode k i]) = s.run done
  -- what has gone out goes out again as it did, whatever has happened to the other frames and the counters
  again : ∀ done k i during j bytes, done ++ .encode k i :: (during ++ [.encode k j]) <+: ops →
    (∀ f, .place k f ∉ during) → ((s.run done).send k i).outcome = .ok bytes →
      ((s.run (done ++ .encode k i :: during)).send k j).outcome = .ok bytes ∧
        s.run (done ++ .encode k i :: (during ++ [.encode k j])) = s.run (done ++ .encode k i :: during)

theorem numbered_of_settled (s : Station ι κ) (ops : List (StationOp ι κ))
    (hsettled : ∀ event ∈ s.trace ops, event.isSettled = true) : s.Numbered ops where
  shown done hdone i := by
    obtain ⟨rest, rfl⟩ := hdone
    rw [trace_append, List.forall_mem_append] at hsettled
    obtain ⟨-, hnext⟩ := run_counter s done hsettled.1 i
    refine ⟨_, rfl, ?_⟩
    rw [hnext, StationEvent.countP_isDraw, UInt8.toNat_add, UInt8.toNat_ofNat', Nat.add_mod_mod, Nat.add_assoc]
  given i := by
    obtain ⟨hnumbers, -⟩ := run_counter s ops hsettled i
    rw [hnumbers, List.map_map, StationEvent.countP_isDraw]
    refine List.map_congr_left fun m _ => ?_
    rw [Function.comp_apply, UInt8.toNat_add, UInt8.toNat_ofNat', Nat.add_mod_mod]
  sent done k i bytes hdone hbytes := by
    have hseq := Frame.seq_of_ok hbytes
    rw [run_concat, frames_step_encode]
    exact ⟨_, (Frame.getElem?_two_of_ok hbytes).trans hseq, hseq⟩
  own done k i hdone hseq := by rw [run_concat, step_encode_of_seq hseq]
  again done k i during j bytes hdone hplace hbytes := by
    have hrun : s.run (done ++ .encode k i :: during) = ((s.run done).step (.encode k i)).2.run during := by
      rw [run_append, run_cons]
    have hsent : (s.run (done ++ .encode k i :: during)).Sent k bytes := hrun ▸ (sent_of_ok hbytes).run hplace
    refine ⟨by rw [send, hsent], ?_⟩
    rw [← List.cons_append, ← List.append_assoc, run_concat, step_encode_of_seq hsent.seq_isSome]

-- Two counters, one of them about to start its next round. The frame `0` has no number at first, `1` has the number 7
-- until it is built anew, and `2` asks for security. The first counter is asked for a number between two frames.
theorem numbered_of_settled_wraps :
    let fresh : Frame := { header := {}, payload := .raw [1, 2] }
    let s : Station Bool (Fin 3) := {
      counters := fun i => if i then ⟨254⟩ else ⟨0⟩
      frames := [fresh, { fresh with header.seq := some 7 }, { fresh with header.security := true }].get }
    let ops : List (StationOp Bool (Fin 3)) := [.encode 0 true, .next false, .encode 1 true, .encode 2 true,
      .encode 0 false, .next true, .place 1 fresh, .encode 1 true]
    (∀ event ∈ s.trace ops, event.isSettled = true) ∧
      ((s.trace ops).filterMap (·.given? true)).map UInt8.toNat = [254, 255, 0] ∧
      ∀ i, ∃ n, (s.run ops).step (.peek i) = (.peek i n, s.run ops) ∧ n.toNat = 1 := by
  intro fresh s ops
  have hsettled : ∀ event ∈ s.trace ops, event.isSettled = true := by decide
  have hnexts : ∀ i, (s.trace ops).countP (StationEvent.isNext i) = 1 := by decide
  have hsends : ∀ i, (s.trace ops).countP (StationEvent.isFirstSend i) = if i then 2 else 0 := by decide
  have hnumbered := numbered_of_settled s ops hsettled
  refine ⟨hsettled, ?_, fun i => ?_⟩
  · rw [hnumbered.given, hnexts, hsends]
    decide
  · obtain ⟨n, hpeek, hn⟩ := hnumbered.shown ops (List.prefix_refl ops) i
    rw [hnexts, hsends] at hn
    refine ⟨n, hpeek, hn.trans ?_⟩
    cases i <;> decide

end Station

end UwbRanging
