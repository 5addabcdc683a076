import UwbRanging.Message.Basic

namespace UwbRanging

-- One device's report of one blink.
structure TimestampRecord where
  device : Eui64
  -- the source address of the frame as the device saw it
  source : Option Eui64 := none
  timestamp : HardwareTimestamp
  deriving DecidableEq, Repr

-- The reports on one blink, at most one of each device, in the order of the devices.
structure Exchange where
  id : BlinkId
  reports : List TimestampRecord := []
  deriving DecidableEq, Repr

namespace Exchange

-- Puts a record in its place. It replaces an earlier one of the same device.
def insert (record : TimestampRecord) : List TimestampRecord → List TimestampRecord
  | [] => [record]
  | r :: rest =>
    if record.device.value < r.device.value then record :: r :: rest
    else if record.device = r.device then record :: rest
    else r :: insert record rest

def report (x : Exchange) (record : TimestampRecord) : Exchange := { x with reports := insert record x.reports }

def get? (x : Exchange) (device : Eui64) : Option TimestampRecord := x.reports.find? fun r => r.device == device

def isEmpty (x : Exchange) : Bool := x.reports.isEmpty

-- Whether every one of these devices has reported.
def isComplete (x : Exchange) (devices : List Eui64) : Bool := devices.all fun d => (x.get? d).isSome

end Exchange

-- A report on its way to the table.
structure Delivery where
  id : BlinkId
  record : TimestampRecord
  deriving DecidableEq, Repr

-- The exchanges in flight. Ids count up from 1.
structure ExchangeTable where
  next : BlinkId := 1
  inflight : List Exchange := []
  deriving DecidableEq, Repr

namespace ExchangeTable

instance : Inhabited ExchangeTable := ⟨{}⟩

def find? (t : ExchangeTable) (id : BlinkId) : Option Exchange := t.inflight.find? fun x => x.id == id

def isLive (t : ExchangeTable) (id : BlinkId) : Bool := (t.find? id).isSome

-- The table without an exchange.
def purge (t : ExchangeTable) (id : BlinkId) : ExchangeTable :=
  { t with inflight := t.inflight.filter fun x => x.id != id }

-- Opens an exchange under the next id.
def create (t : ExchangeTable) : BlinkId × ExchangeTable :=
  (t.next, ⟨t.next + 1, (t.purge t.next).inflight ++ [⟨t.next, []⟩]⟩)

-- Files a record. What is reported for an id that is not in flight is dropped.
def report (t : ExchangeTable) (id : BlinkId) (record : TimestampRecord) : ExchangeTable :=
  { t with inflight := t.inflight.map fun x => if x.id = id then x.report record else x }

def deliver (t : ExchangeTable) (d : Delivery) : ExchangeTable := t.report d.id d.record

def deliverAll (t : ExchangeTable) (ds : List Delivery) : ExchangeTable := ds.foldl deliver t

-- Takes an exchange out of the table. It can be taken once.
def take (t : ExchangeTable) (id : BlinkId) : Option Exchange × ExchangeTable := (t.find? id, t.purge id)

-- Whether every one of these exchanges is in flight and has a report of every device.
def isComplete (t : ExchangeTable) (ids : List BlinkId) (devices : List Eui64) : Bool :=
  ids.all fun id => (t.find? id).any fun x => x.isComplete devices

-- Files reports until all exchanges are complete. Those that come later are not waited for.
def await (t : ExchangeTable) (ids : List BlinkId) (devices : List Eui64) : List Delivery → ExchangeTable
  | [] => t
  | d :: rest => if t.isComplete ids devices then t else (t.deliver d).await ids devices rest

def size (t : ExchangeTable) : Nat := t.inflight.length

end ExchangeTable

end UwbRanging
