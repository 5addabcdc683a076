import UwbRanging.Proofs.Transport.Lifetime
import UwbRanging.Proofs.Transport.Rounds

namespace UwbRanging.Traffic

deriving instance DecidableEq for CallStage, Caller

open TrafficEvent

variable {A : Type} {s : Traffic A} {event : TrafficEvent} {first : UInt32} {i : Nat} {call : RpcCall}
  {before during events : List TrafficEvent}

-- What a caller gets in the end, if this has happened while it waited.
structure Settled (timeout : Nat) (i : Nat) (call : RpcCall) (during : List TrafficEvent) (expired : Bool)
    (result : Except TransportError RpcArgs) : Prop where
  ok : ∀ args, result = .ok args →
    ∃ reply, firstReply call.seqn during = some reply ∧ reply.func = call.func ∧ reply.args = args
  answered : stageSince i during = .sent → ∀ reply, firstReply call.seqn during = some reply →
    reply.func = call.func → result = .ok reply.args
  badReply : stageSince i during = .sent → ∀ reply, firstReply call.seqn during = some reply →
    reply.func ≠ call.func → result = .error (.badReply (.function reply.func call.func))
  timeout : stageSince i during = .sent →
    (result = .error (.callTimeout call.func timeout) ↔ firstReply call.seqn during = none)
  overdue : stageSince i during = .sent → firstReply call.seqn during = none → expired = true
  refused : ∀ error, stageSince i during = .refused error → result = .error error
  tried : stageSince i during ≠ .opened

def numbers (s : Traffic A) : List UInt32 := (s.callers.filter fun c => c.stage.waits).map fun c => c.call.seqn

theorem mem_numbers_iff {seqn : UInt32} : seqn ∈ s.numbers ↔ ∃ i call, s.WaitsFor i call ∧ call.seqn = seqn := by
  simp only [numbers, List.mem_map, List.mem_filter]
  constructor
  · rintro ⟨c, ⟨hc, hwaits⟩, rfl⟩
    obtain ⟨i, hi⟩ := List.mem_iff_getElem?.mp hc
    exact ⟨i, c.call, ⟨c.stage, hi, hwaits⟩, rfl⟩
  · rintro ⟨i, call, ⟨stage, hi, hwaits⟩, rfl⟩
    exact ⟨⟨call, stage⟩, ⟨List.mem_iff_getElem?.mpr ⟨i, hi⟩, hwaits⟩, rfl⟩

theorem nodup_numbers (hnumbered : s.Numbered first) (hout : s.numberSpan ≤ 2 ^ 32) : s.numbers.Nodup := by
  have hpairs : s.callers.Pairwise fun c c' =>
      c.stage.waits = true → c'.stage.waits = true → c.call.seqn ≠ c'.call.seqn := by
    refine List.pairwise_iff_getElem.mpr fun i j hi hj hij hwaits hwaits' => ?_
    have hfirst : s.WaitsFor i s.callers[i].call := ⟨_, List.getElem?_eq_getElem hi, hwaits⟩
    have hsecond : s.WaitsFor j s.callers[j].call := ⟨_, List.getElem?_eq_getElem hj, hwaits'⟩
    exact hfirst.seqn_ne hsecond (Nat.ne_of_lt hij) hnumbered hout
  rw [numbers, List.Nodup, List.pairwise_map, List.pairwise_filter]
  exact hpairs.imp fun h hwaits hwaits' => h hwaits hwaits'

theorem Tracked.perm (h : s.Tracked events) (hnumbered : (s.run events).Numbered first)
    (hout : (s.run events).numberSpan ≤ 2 ^ 32) :
    (s.run events).endpoint.pending.numbers.Perm (s.run events).numbers := by
  refine (List.perm_ext_iff_of_nodup h.nodup (nodup_numbers hnumbered hout)).mpr fun seqn => ?_
  rw [PendingCalls.mem_numbers_iff, mem_numbers_iff, PendingCalls.isPending_eq]
  constructor
  · intro hpending
    by_contra hheld
    rw [h.free seqn fun i call hi hsame => hheld ⟨i, call, hi, hsame⟩] at hpending
    cases hpending
  · rintro ⟨i, call, hi, rfl⟩
    obtain ⟨before, during, rfl, hlife⟩ := h.waiting i call hi
    rw [hlife.slot]
    rfl

theorem Tracked.refuses (h : s.Tracked events) {reply : RpcCall}
    (hfree : ∀ i call, (s.run events).WaitsFor i call → call.seqn ≠ reply.seqn) :
    (s.run events).endpoint.pending.complete reply = (false, (s.run events).endpoint.pending) := by
  apply PendingCalls.complete_of_not_empty
  rw [h.free reply.seqn hfree]
  exact nofun

end UwbRanging.Traffic
