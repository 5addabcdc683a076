import UwbRanging.Proofs.Transport.Traffic

namespace UwbRanging

def CallStage.isEnded : CallStage → Bool
  | ended _ => true
  | _ => false

namespace TrafficEvent

end TrafficEvent

namespace Traffic

open TrafficEvent

variable {A : Type} {s t : Traffic A}

-- How many calls are made at once: they have their numbers and have not ended.
def running (s : Traffic A) : Nat := s.callers.countP fun c => !c.stage.isEnded

section Running

end Running

-- What calls leave behind that were made and have ended: the numbers after theirs, and what waits under other numbers.
structure Passed (s t : Traffic A) (count : Nat) : Prop where
  callers : ∃ passed : List Caller, t.callers = s.callers ++ passed ∧ passed.length = count
  running : t.running = s.running
  next : t.endpoint.nextSeqn = s.endpoint.nextSeqn + UInt32.ofNat count
  kept : ∀ seqn, (∀ k < count, s.endpoint.nextSeqn + UInt32.ofNat k ≠ seqn) →
    t.endpoint.pending.slot? seqn = s.endpoint.pending.slot? seqn
  callTimeout : t.endpoint.callTimeout = s.endpoint.callTimeout

theorem Passed.trans {u : Traffic A} {m n : Nat} (h : s.Passed t m) (h' : t.Passed u n) : s.Passed u (m + n) where
  callers := by
    obtain ⟨passed, hcallers, rfl⟩ := h.callers
    obtain ⟨passed', hcallers', rfl⟩ := h'.callers
    exact ⟨passed ++ passed', by rw [hcallers', hcallers, List.append_assoc], List.length_append⟩
  running := h'.running.trans h.running
  next := by rw [h'.next, h.next, UInt32.ofNat_add, UInt32.add_assoc]
  kept seqn hother := by
    rw [h'.kept seqn fun k hk => ?_, h.kept seqn fun k hk => hother k (by omega)]
    rw [h.next, UInt32.add_assoc, ← UInt32.ofNat_add]
    exact hother (m + k) (by omega)
  callTimeout := h'.callTimeout.trans h.callTimeout

end Traffic

end UwbRanging
