import Mathlib.Algebra.Group.Nat.Defs
import UwbRanging.Proofs.Transport.Pending
import UwbRanging.Transport.Traffic

namespace UwbRanging

def Message.reply? : Message → Option RpcCall
  | rpc reply => some reply
  | _ => none

namespace TrafficEvent

-- The reply that a datagram is, if it is one.
def reply? : TrafficEvent → Option RpcCall
  | datagram bytes => (Message.decode bytes).toOption.bind Message.reply?
  | _ => none

def replyTo? (seqn : UInt32) (event : TrafficEvent) : Option RpcCall :=
  event.reply?.filter fun reply => reply.seqn == seqn

-- The first reply to a number in the course of some events.
def firstReply (seqn : UInt32) (events : List TrafficEvent) : Option RpcCall := events.findSome? (replyTo? seqn)

-- How a request went out, if a caller sends it.
def sending? (i : Nat) : TrafficEvent → Option (Option TransportError)
  | action j (.send failure) => if j = i then some failure else none
  | _ => none

-- The stage of a call that has been waited for in the course of some events. Its request is sent once.
def stageSince (i : Nat) (events : List TrafficEvent) : CallStage :=
  match events.findSome? (sending? i) with
  | none => .opened
  | some none => .sent
  | some (some error) => .refused error

variable {seqn : UInt32} {i : Nat} {events : List TrafficEvent} {event : TrafficEvent}

theorem reply?_datagram (bytes : List UInt8) :
    (datagram bytes).reply? = (Message.decode bytes).toOption.bind Message.reply? := rfl

end TrafficEvent

namespace Endpoint

open TrafficEvent

variable {A : Type} (e : Endpoint A) (bytes : List UInt8) (seqn : UInt32)

theorem accept_of_not_reply {m : Message} (h : m.reply? = none) : (e.accept m).pending = e.pending := by
  have helim (d : Option Delivery) : (d.elim e fun d => { e with table := e.table.deliver d }).pending = e.pending := by
    cases d <;> rfl
  cases m with
  | beacon request => rfl
  | rpc reply => cases h
  | tx r => exact helim r.delivery?
  | rx r => exact helim r.delivery?

theorem pending_dispatch : (e.dispatch bytes).pending =
    (datagram bytes).reply?.elim e.pending fun reply => (e.pending.complete reply).2 := by
  rw [reply?_datagram, dispatch]
  cases Message.decode bytes with
  | error error => rfl
  | ok m =>
    cases hreply : m.reply? with
    | none => simpa [Except.toOption, hreply] using e.accept_of_not_reply hreply
    | some reply =>
      cases m with
      | rpc r => cases hreply; rfl
      | _ => cases hreply

-- An empty place is filled by a reply to its number.
theorem slot?_dispatch : (e.dispatch bytes).pending.slot? seqn =
    (e.pending.slot? seqn).map fun slot => slot.or ((datagram bytes).replyTo? seqn) := by
  rw [pending_dispatch, replyTo?]
  cases (datagram bytes).reply? with
  | none => simp
  | some reply =>
    rw [Option.elim_some, PendingCalls.slot?_complete]
    cases e.pending.slot? seqn with
    | none => simp
    | some slot =>
      by_cases hseqn : seqn = reply.seqn
      · cases slot <;> simp [hseqn, Option.filter]
      · simp [hseqn, Option.filter, Ne.symm hseqn]

theorem accept_eq (m : Message) :
    e.accept m = { e with pending := (e.accept m).pending, table := (e.accept m).table } := by
  have helim (d : Option Delivery) : ∃ table, d.elim e (fun d => { e with table := e.table.deliver d }) =
      { e with table := table } := by
    cases d with
    | none => exact ⟨e.table, rfl⟩
    | some d => exact ⟨e.table.deliver d, rfl⟩
  cases m with
  | beacon request => rfl
  | rpc reply => rfl
  | tx r =>
    obtain ⟨table, htable⟩ := helim r.delivery?
    rw [show e.accept (.tx r) = _ from htable]
  | rx r =>
    obtain ⟨table, htable⟩ := helim r.delivery?
    rw [show e.accept (.rx r) = _ from htable]

theorem dispatch_eq : e.dispatch bytes =
    { e with pending := (e.dispatch bytes).pending, table := (e.dispatch bytes).table } := by
  rw [dispatch]
  split
  · exact e.accept_eq _
  · rfl

@[simp] theorem nextSeqn_dispatch : (e.dispatch bytes).nextSeqn = e.nextSeqn := by
  rw [dispatch_eq]

@[simp] theorem callTimeout_dispatch : (e.dispatch bytes).callTimeout = e.callTimeout := by
  rw [dispatch_eq]

-- Why a caller ends its call, and how: its reply is there or its deadline has passed, or its request was not sent.
inductive Ends (e : Endpoint A) (call : RpcCall) (expired : Bool) :
    CallStage → Except TransportError RpcArgs → Prop where
  | settled (h : (e.pending.reply? call.seqn).isSome = true ∨ expired = true) :
      Ends e call expired .sent (e.conclude call.func (e.pending.reply? call.seqn))
  | refused (error : TransportError) : Ends e call expired (.refused error) (.error error)

end Endpoint

namespace Traffic

open TrafficEvent

variable {A : Type}

-- What an event can come to.
inductive Steps (s : Traffic A) : TrafficEvent → Traffic A → Prop where
  | calls (func : String) (args : RpcArgs) : Steps s (.call func args)
      ⟨{ s.endpoint with nextSeqn := s.endpoint.nextSeqn + 1 },
        s.callers ++ [⟨⟨func, s.endpoint.nextSeqn, args⟩, .numbered⟩]⟩
  | opens (i : Nat) (call : RpcCall) (h : s.callers[i]? = some ⟨call, .numbered⟩) : Steps s (.action i .register)
      ⟨{ s.endpoint with pending := s.endpoint.pending.start call.seqn }, s.callers.set i ⟨call, .opened⟩⟩
  | sends (i : Nat) (call : RpcCall) (failure : Option TransportError) (h : s.callers[i]? = some ⟨call, .opened⟩) :
      Steps s (.action i (.send failure)) ⟨s.endpoint, s.callers.set i ⟨call, failure.elim .sent .refused⟩⟩
  | ends (i : Nat) (call : RpcCall) (stage : CallStage) (expired : Bool) (result : Except TransportError RpcArgs)
      (h : s.callers[i]? = some ⟨call, stage⟩) (hends : s.endpoint.Ends call expired stage result) :
      Steps s (.action i (.look expired))
        ⟨{ s.endpoint with pending := (s.endpoint.pending.finish call.seqn).2 },
          s.callers.set i ⟨call, .ended result⟩⟩
  -- it is not the caller's turn for this, or its wait goes on
  | passes (i : Nat) (action : CallAction)
      (h : ∀ call, s.callers[i]? = some ⟨call, .opened⟩ → ∀ failure, action ≠ .send failure) :
      Steps s (.action i action) s
  | hears (bytes : List UInt8) : Steps s (.datagram bytes) { s with endpoint := s.endpoint.dispatch bytes }

variable (s : Traffic A) (event : TrafficEvent)

theorem step_action {i : Nat} {c : Caller} (h : s.callers[i]? = some c) (action : CallAction) :
    s.step (.action i action) = ⟨(s.endpoint.act c.call c.stage action).1,
      s.callers.set i ⟨c.call, (s.endpoint.act c.call c.stage action).2⟩⟩ := by
  rw [step, h]

theorem steps_action {i : Nat} {call : RpcCall} {stage : CallStage} (h : s.callers[i]? = some ⟨call, stage⟩)
    (action : CallAction) : Steps s (.action i action) (s.step (.action i action)) := by
  have hself : (⟨s.endpoint, s.callers.set i ⟨call, stage⟩⟩ : Traffic A) = s := by
    rw [← List.getElem?_eq_some_iff.mp h |>.2, List.set_getElem_self]
  rw [step_action s h]
  dsimp only
  unfold Endpoint.act
  split
  · exact .opens i call h
  · exact .sends i call none h
  · exact .sends i call (some _) h
  · rename_i expired
    split
    · rename_i hover
      exact .ends i call .sent expired _ h (.settled (by simpa using hover))
    · rw [hself]
      exact .passes i _ (fun _ _ _ => nofun)
  · exact .ends i call _ _ _ h (.refused _)
  · rename_i hsend hfail _ _
    rw [hself]
    refine .passes i action ?_
    rintro call' hcall' failure rfl
    obtain rfl : stage = .opened := (Caller.mk.inj (Option.some.inj (h.symm.trans hcall'))).2
    cases failure with
    | none => exact hsend rfl rfl
    | some error => exact hfail error rfl rfl

theorem steps_step : Steps s event (s.step event) := by
  cases event with
  | call func args => exact .calls func args
  | datagram bytes => exact .hears bytes
  | action i action =>
    cases hi : s.callers[i]? with
    | some c => exact steps_action s hi action
    | none =>
      have hidle : s.step (.action i action) = s := by rw [step, hi]
      rw [hidle]
      exact .passes i action (by simp [hi])

theorem run_append (events later : List TrafficEvent) : s.run (events ++ later) = (s.run events).run later :=
  List.foldl_append

theorem run_concat (events : List TrafficEvent) : s.run (events ++ [event]) = (s.run events).step event :=
  s.run_append events [event]

variable {s event} {t : Traffic A} {first : UInt32} {i j : Nat} {c : Caller} {call : RpcCall} {stage stage' : CallStage}

theorem getElem?_callers_set (hi : s.callers[i]? = some ⟨call, stage⟩) :
    (s.callers.set i ⟨call, stage'⟩)[j]? = if i = j then some ⟨call, stage'⟩ else s.callers[j]? := by
  rw [List.getElem?_set, if_pos (List.getElem?_eq_some_iff.mp hi).1]

theorem getElem?_callers_add {c' : Caller} (hj : (s.callers ++ [c'])[j]? = some c) :
    s.callers[j]? = some c ∨ j = s.callers.length ∧ c' = c := by
  rw [List.getElem?_append] at hj
  split at hj
  · exact .inl hj
  · rw [List.getElem?_singleton] at hj
    split at hj
    · exact .inr ⟨by omega, Option.some.inj hj⟩
    · cases hj

-- Calls are numbered in the order in which they are made, from `first` on.
structure Numbered (first : UInt32) (s : Traffic A) : Prop where
  seqn : ∀ i c, s.callers[i]? = some c → c.call.seqn = first + UInt32.ofNat i
  next : s.endpoint.nextSeqn = first + UInt32.ofNat s.callers.length

-- An action leaves the number of every call.
theorem Numbered.set (h : s.Numbered first) (hi : s.callers[i]? = some ⟨call, stage⟩) {e : Endpoint A}
    (he : e.nextSeqn = s.endpoint.nextSeqn) : Numbered first ⟨e, s.callers.set i ⟨call, stage'⟩⟩ where
  seqn j c hj := by
    rw [getElem?_callers_set hi] at hj
    split at hj
    · rename_i heq
      cases hj
      have hseqn := h.seqn i _ hi
      rwa [heq] at hseqn
    · exact h.seqn j c hj
  next := by
    rw [he, List.length_set]
    exact h.next

theorem Numbered.add (h : s.Numbered first) (func : String) (args : RpcArgs) :
    Numbered first ⟨{ s.endpoint with nextSeqn := s.endpoint.nextSeqn + 1 },
      s.callers ++ [⟨⟨func, s.endpoint.nextSeqn, args⟩, .numbered⟩]⟩ where
  seqn j c hj := by
    rcases getElem?_callers_add hj with hj | ⟨rfl, rfl⟩
    · exact h.seqn j c hj
    · exact h.next
  next := by
    rw [List.length_append, h.next, UInt32.ofNat_add, ← UInt32.add_assoc]
    rfl

theorem Numbered.of_steps (h : s.Numbered first) (hsteps : Steps s event t) : t.Numbered first := by
  cases hsteps with
  | calls func args => exact h.add func args
  | opens i call hi => exact h.set hi rfl
  | sends i call failure hi => exact h.set hi rfl
  | ends i call stage expired result hi hends => exact h.set hi rfl
  | passes i action hidle => exact h
  | hears bytes => exact ⟨h.seqn, (s.endpoint.nextSeqn_dispatch bytes).trans h.next⟩

theorem Numbered.run (h : s.Numbered first) (events : List TrafficEvent) : (s.run events).Numbered first := by
  induction events generalizing s with
  | nil => exact h
  | cons event events ih => exact ih (h.of_steps (s.steps_step event))

-- Less than one round of numbers apart, two calls have different ones.
theorem Numbered.eq_of_seqn {c' : Caller} (h : s.Numbered first) (hi : s.callers[i]? = some c)
    (hj : s.callers[j]? = some c') (hij : j < i + 2 ^ 32) (hji : i < j + 2 ^ 32)
    (hsame : c.call.seqn = c'.call.seqn) : i = j := by
  rw [h.seqn i c hi, h.seqn j c' hj] at hsame
  have hval := congrArg UInt32.toNat ((UInt32.add_right_inj first).mp hsame)
  rw [UInt32.toNat_ofNat', UInt32.toNat_ofNat'] at hval
  omega

-- A call that is waited for, as the caller at that place has it.
def WaitsFor (s : Traffic A) (i : Nat) (call : RpcCall) : Prop :=
  ∃ stage, s.callers[i]? = some ⟨call, stage⟩ ∧ stage.waits = true

-- As long as a call is waited for, the numbers since do not come round.
theorem WaitsFor.lt_add (h : s.WaitsFor i call) (hj : s.callers[j]? = some c) (hout : s.numberSpan ≤ 2 ^ 32) :
    j < i + 2 ^ 32 := by
  obtain ⟨stage, hi, hwaits⟩ := h
  obtain ⟨hlength, hget⟩ := List.getElem?_eq_some_iff.mp hi
  have holdest : s.callers.findIdx (fun c => c.stage.waits) ≤ i := by
    by_contra hlater
    have hidle := List.not_of_lt_findIdx (Nat.lt_of_not_le hlater)
    rw [hget] at hidle
    exact Bool.false_ne_true (hidle.symm.trans hwaits)
  have hj := (List.getElem?_eq_some_iff.mp hj).1
  unfold numberSpan at hout
  omega

theorem WaitsFor.seqn_ne {other : RpcCall} (hi : s.WaitsFor i call) (hj : s.WaitsFor j other) (hne : i ≠ j)
    (hnumbered : s.Numbered first) (hout : s.numberSpan ≤ 2 ^ 32) : call.seqn ≠ other.seqn := by
  have ⟨stage, hi', _⟩ := hi
  have ⟨stage', hj', _⟩ := hj
  have hij := hi.lt_add hj' hout
  have hji := hj.lt_add hi' hout
  exact fun hsame => hne (hnumbered.eq_of_seqn hi' hj' hij hji hsame)

end Traffic

namespace Link

variable {A σ : Type} (link : Link σ A) (address : A) (func : String) (args : RpcArgs) (e : Endpoint A)

-- The call is opened, the request is sent, what arrives is taken in, and the call is closed.
theorem callAt_eq (state : σ) : link.callAt address func args (e, state) =
    match link.send address (Message.rpc (e.number func args).1).encode state with
    | (.ok datagrams, state) =>
      let (result, e') := ((e.openCall func args).2.dispatchAll datagrams).closeCall (e.number func args).1
      (result, (e', state))
    | (.error error, state) =>
      (.error error, (((e.openCall func args).2.closeCall (e.number func args).1).2, state)) := by
  have hcall : (e.number func args).1 = (e.openCall func args).1 := rfl
  rw [hcall]
  unfold callAt post
  simp only [bind, ExceptT.bind, ExceptT.mk, StateT.bind, ExceptT.bindCont, tryCatch, tryCatchThe,
    MonadExceptOf.tryCatch, ExceptT.tryCatch, fetch]
  cases link.send address (Message.rpc (e.openCall func args).1).encode state with
  | mk outcome state' => cases outcome <;> rfl

-- What happens at an endpoint in the course of a call while no other one is made.
def traffic (outcome : Except TransportError (List (List UInt8))) : List TrafficEvent :=
  let passed : List TrafficEvent :=
    match outcome with
    | .ok datagrams => .action 0 (.send none) :: datagrams.map .datagram
    | .error error => [.action 0 (.send (some error))]
  [.call func args, .action 0 .register] ++ passed ++ [.action 0 (.look true)]

theorem run_datagrams (s : Traffic A) (datagrams : List (List UInt8)) :
    s.run (datagrams.map .datagram) = { s with endpoint := s.endpoint.dispatchAll datagrams } := by
  induction datagrams generalizing s with
  | nil => rfl
  | cons bytes rest ih => exact ih (s.step (.datagram bytes))

theorem step_look (call : RpcCall) : (Traffic.mk e [⟨call, .sent⟩]).step (.action 0 (.look true)) =
    ⟨(e.closeCall call).2, [⟨call, .ended (e.closeCall call).1⟩]⟩ := by
  simp [Traffic.step, Endpoint.act]

-- A call with nothing else going on is what its caller sees in such traffic.
theorem callAt_eq_run {outcome : Except TransportError (List (List UInt8))} {state state' : σ}
    (hsend : link.send address (Message.rpc (e.number func args).1).encode state = (outcome, state')) :
    ∃ result e', (Traffic.mk e []).run (traffic func args outcome) =
        ⟨e', [⟨(e.number func args).1, .ended result⟩]⟩ ∧
      link.callAt address func args (e, state) = (result, (e', state')) := by
  rw [callAt_eq, hsend]
  cases outcome with
  | error error => exact ⟨_, _, rfl, rfl⟩
  | ok datagrams =>
    have hsent : (Traffic.mk e []).run [.call func args, .action 0 .register, .action 0 (.send none)] =
        ⟨(e.openCall func args).2, [⟨(e.number func args).1, .sent⟩]⟩ := rfl
    have hsplit : traffic func args (.ok datagrams) =
        [.call func args, .action 0 .register, .action 0 (.send none)] ++ datagrams.map .datagram ++
          [.action 0 (.look true)] := rfl
    refine ⟨_, _, ?_, rfl⟩
    rw [hsplit, Traffic.run_concat, Traffic.run_append, hsent, run_datagrams, step_look]
    rfl

end Link

end UwbRanging
