import UwbRanging.Exchange.Table

namespace UwbRanging

-- What is asked of a table of exchanges, by the engine or by the network.
inductive TableOp where
  | create
  | report (d : Delivery)
  | take (id : BlinkId)
  | purge (id : BlinkId)
  deriving DecidableEq, Repr

-- What comes back.
inductive TableAnswer where
  | created (id : BlinkId)
  -- whether the exchange is in flight
  | reported (kept : Bool)
  | taken (exchange : Option Exchange)
  | purged
  deriving DecidableEq, Repr

namespace TableOp

def isCreate : TableOp → Bool
  | create => true
  | _ => false

-- Whether an exchange may leave the table by this.
def isRemoval : TableOp → Bool
  | take _ => true
  | purge _ => true
  | _ => false

-- How many ids a history uses up.
def creates (ops : List TableOp) : Nat := ops.countP isCreate

end TableOp

namespace ExchangeTable

def step (t : ExchangeTable) : TableOp → TableAnswer × ExchangeTable
  | .create => (.created t.create.1, t.create.2)
  | .report d => (.reported (t.isLive d.id), t.deliver d)
  | .take id => (.taken (t.take id).1, (t.take id).2)
  | .purge id => (.purged, t.purge id)

-- The table after some operations.
def run (t : ExchangeTable) (ops : List TableOp) : ExchangeTable := ops.foldl (fun t op => (t.step op).2) t

-- The ids in flight, in the order in which they were opened.
def ids (t : ExchangeTable) : List BlinkId := t.inflight.map (·.id)

-- Whether an operation takes this exchange out of the table. So does an id that is given out again.
def unlinks (t : ExchangeTable) (id : BlinkId) : TableOp → Bool
  | .create => t.next == id
  | .report _ => false
  | .take other => other == id
  | .purge other => other == id

end ExchangeTable

end UwbRanging
