import UwbRanging.Message.Basic

namespace UwbRanging

-- The calls that wait for a reply, by number. Each holds the first reply that came for it.
structure PendingCalls where
  calls : List (UInt32 × Option RpcCall) := []
  deriving DecidableEq, Repr

namespace PendingCalls

def isPending (p : PendingCalls) (seqn : UInt32) : Bool := (p.calls.lookup seqn).isSome

-- The reply that came for a call, if the call is pending and there is one.
def reply? (p : PendingCalls) (seqn : UInt32) : Option RpcCall := (p.calls.lookup seqn).join

def without (p : PendingCalls) (seqn : UInt32) : List (UInt32 × Option RpcCall) :=
  p.calls.filter fun call => call.1 != seqn

-- Starts to wait under a number. An older call of that number is forgotten.
def start (p : PendingCalls) (seqn : UInt32) : PendingCalls := ⟨(seqn, none) :: p.without seqn⟩

-- Gives a reply to the call that waits for it. It is refused if no call waits under its number or if
-- that call has a reply already.
def complete (p : PendingCalls) (reply : RpcCall) : Bool × PendingCalls :=
  match p.calls.lookup reply.seqn with
  | some none => (true, ⟨(reply.seqn, some reply) :: p.without reply.seqn⟩)
  | _ => (false, p)

-- Ends a call. What it waited for is given out, and the number is free.
def finish (p : PendingCalls) (seqn : UInt32) : Option RpcCall × PendingCalls := (p.reply? seqn, ⟨p.without seqn⟩)

end PendingCalls

end UwbRanging
