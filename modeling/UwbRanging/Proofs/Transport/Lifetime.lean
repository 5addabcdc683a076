import Mathlib.Data.List.Induction
import UwbRanging.Proofs.Transport.Traffic

namespace UwbRanging.Traffic

open TrafficEvent

variable {A : Type} {s t t' : Traffic A} {event : TrafficEvent} {first : UInt32} {i : Nat} {call : RpcCall}
  {before during events : List TrafficEvent}

-- Those replies to a number that are taken in, in the course of some events.
def accepted (seqn : UInt32) (s : Traffic A) : List TrafficEvent → List RpcCall
  | [] => []
  | event :: rest =>
    ((event.replyTo? seqn).filter fun reply => (s.endpoint.pending.complete reply).1).toList ++
      accepted seqn (s.step event) rest

-- A call was opened after `before` and is waited for since, in the course of `during`. The first reply to it is in
-- its place, and it is the only one that was taken in.
structure Lifetime (s : Traffic A) (i : Nat) (call : RpcCall) (before during : List TrafficEvent) : Prop where
  numbered : (s.run before).callers[i]? = some ⟨call, .numbered⟩
  stage : (s.run (before ++ .action i .register :: during)).callers[i]? = some ⟨call, stageSince i during⟩
  slot : (s.run (before ++ .action i .register :: during)).endpoint.pending.slot? call.seqn =
    some (firstReply call.seqn during)
  accepted : (s.run (before ++ [.action i .register])).accepted call.seqn during =
    (firstReply call.seqn during).toList

theorem Lifetime.opened (hi : (s.run before).callers[i]? = some ⟨call, .numbered⟩) :
    s.Lifetime i call before [] where
  numbered := hi
  stage := by
    rw [run_concat, step_action _ hi]
    exact (getElem?_callers_set hi).trans (if_pos rfl)
  slot := by
    rw [run_concat, step_action _ hi]
    exact (PendingCalls.slot?_start _ _ _).trans (if_pos rfl)
  accepted := rfl

-- The table holds what the calls that are waited for have there, and nothing else.
structure Tracked (s : Traffic A) (events : List TrafficEvent) : Prop where
  waiting : ∀ i call, (s.run events).WaitsFor i call →
    ∃ before during, events = before ++ .action i .register :: during ∧ s.Lifetime i call before during
  free : ∀ seqn, (∀ i call, (s.run events).WaitsFor i call → call.seqn ≠ seqn) →
    (s.run events).endpoint.pending.slot? seqn = none
  nodup : (s.run events).endpoint.pending.numbers.Nodup

-- The numbers have not come round to a call that is waited for at any time.
def Uncrowded (s : Traffic A) (events : List TrafficEvent) : Prop :=
  ∀ before, before <+: events → (s.run before).numberSpan ≤ 2 ^ 32

theorem Uncrowded.last (h : s.Uncrowded events) : (s.run events).numberSpan ≤ 2 ^ 32 := h events List.prefix_rfl

end UwbRanging.Traffic
