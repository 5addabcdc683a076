import UwbRanging.Exchange.History

namespace UwbRanging

-- A thread that waits until some exchanges are complete. It goes through them one by one, while other
-- threads use the table.
inductive Waiter where
  -- about to look up the first of these exchanges
  | seeking (ids : List BlinkId)
  -- has hold of an exchange. One that leaves the table stays for it what it was then.
  | holding (id : BlinkId) (removed : Option Exchange) (rest : List BlinkId)
  | returned (complete : Bool)
  deriving DecidableEq, Repr

-- What happens while a thread waits: another thread does something, or it is its own turn, with its
-- deadline passed or not.
inductive WaitEvent where
  | other (op : TableOp)
  | turn (expired : Bool)
  deriving DecidableEq, Repr

namespace Waiter

-- One turn: an exchange is looked up, or the one at hand is looked at. A turn without effect ends in
-- another wait for a report.
def turn (t : ExchangeTable) (devices : List Eui64) (expired : Bool) : Waiter → Waiter
  | seeking [] => returned true
  | seeking (id :: rest) => if t.isLive id then holding id none rest else returned false
  | holding id removed rest =>
    if (removed.or (t.find? id)).any (·.isComplete devices) then seeking rest
    else if expired then returned false
    else holding id removed rest
  | returned complete => returned complete

-- What an operation of another thread does to the exchange at hand. What is reported meanwhile shows
-- in the table.
def notice (t : ExchangeTable) (op : TableOp) : Waiter → Waiter
  | holding id none rest => holding id (if t.unlinks id op then t.find? id else none) rest
  | w => w

def step (devices : List Eui64) (s : ExchangeTable × Waiter) : WaitEvent → ExchangeTable × Waiter
  | .other op => ((s.1.step op).2, s.2.notice s.1 op)
  | .turn expired => (s.1, s.2.turn s.1 devices expired)

-- The table, and where the waiter stands, after some events.
def run (devices : List Eui64) (s : ExchangeTable × Waiter) (events : List WaitEvent) : ExchangeTable × Waiter :=
  events.foldl (step devices) s

end Waiter

-- What the other threads do meanwhile.
def WaitEvent.op? : WaitEvent → Option TableOp
  | other op => some op
  | turn _ => none

end UwbRanging
