import Mathlib.Data.List.Nodup
import UwbRanging.Transport.Pending

namespace UwbRanging.PendingCalls

-- What is there under a number: no call, a call without a reply, or a call with one.
def slot? (p : PendingCalls) (seqn : UInt32) : Option (Option RpcCall) := p.calls.lookup seqn

-- The numbers of the calls that wait.
def numbers (p : PendingCalls) : List UInt32 := p.calls.map (·.1)

variable (p : PendingCalls) (seqn other : UInt32) (reply : RpcCall)

theorem isPending_eq : p.isPending seqn = (p.slot? seqn).isSome := rfl

theorem reply?_eq : p.reply? seqn = (p.slot? seqn).join := rfl

theorem lookup_without : (p.without seqn).lookup other = if other = seqn then none else p.slot? other := by
  unfold without slot?
  induction p.calls with
  | nil => simp
  | cons call rest ih =>
    by_cases hself : call.1 = seqn
    · rw [List.filter_cons_of_neg (by simp [hself]), ih, ← hself]
      by_cases hother : other = call.1
      · rw [if_pos hother, if_pos hother]
      · rw [if_neg hother, if_neg hother, List.lookup_cons, beq_eq_false_iff_ne.mpr hother]
    · rw [List.filter_cons_of_pos (by simpa using hself), List.lookup_cons, List.lookup_cons, ih]
      by_cases hother : other = call.1
      · simp [hother, hself]
      · simp [beq_eq_false_iff_ne.mpr hother]

theorem slot?_cons_without (slot : Option RpcCall) :
    (PendingCalls.mk ((seqn, slot) :: p.without seqn)).slot? other =
      if other = seqn then some slot else p.slot? other := by
  rw [slot?, List.lookup_cons, lookup_without]
  by_cases hother : other = seqn
  · simp [hother]
  · simp [hother, beq_eq_false_iff_ne.mpr hother]

theorem slot?_start : (p.start seqn).slot? other = if other = seqn then some none else p.slot? other :=
  slot?_cons_without p seqn other none

-- A reply is taken in if its call waits and has none yet.
theorem complete_of_empty {p : PendingCalls} {reply : RpcCall} (h : p.slot? reply.seqn = some none) :
    p.complete reply = (true, ⟨(reply.seqn, some reply) :: p.without reply.seqn⟩) := by
  unfold slot? at h
  simp only [complete, h]

theorem complete_of_not_empty {p : PendingCalls} {reply : RpcCall} (h : p.slot? reply.seqn ≠ some none) :
    p.complete reply = (false, p) := by
  unfold slot? at h
  unfold complete
  split
  · contradiction
  · rfl

theorem slot?_complete : (p.complete reply).2.slot? other =
    if other = reply.seqn ∧ p.slot? other = some none then some (some reply) else p.slot? other := by
  by_cases h : p.slot? reply.seqn = some none
  · rw [complete_of_empty h, slot?_cons_without]
    by_cases hother : other = reply.seqn
    · subst hother
      simp [h]
    · simp [hother]
  · rw [complete_of_not_empty h, if_neg]
    rintro ⟨rfl, hempty⟩
    exact h hempty

theorem mem_numbers_iff : seqn ∈ p.numbers ↔ p.isPending seqn = true := by
  rw [isPending_eq, slot?, numbers]
  induction p.calls with
  | nil => simp
  | cons call rest ih =>
    rw [List.map_cons, List.mem_cons, List.lookup_cons]
    by_cases hself : seqn = call.1
    · simp [hself]
    · simp [hself, beq_eq_false_iff_ne.mpr hself, ih]

variable {p}

end UwbRanging.PendingCalls
