import UwbRanging.Simulation.Air

namespace UwbRanging

-- A datagram that comes to the daemon of one place, the true time, and the random values of the timestamps that it
-- may bring about.
structure Arrival where
  place : Nat
  datagram : List UInt8
  time : Float
  draws : List Draws

namespace Arrival

-- The blink that a datagram asks for, if it is a request for one and its reference spells an id.
def blink? (a : Arrival) : Option BlinkId :=
  match Message.decode a.datagram with
  | .ok (.beacon request) => request.blinkId.toOption
  | _ => none

-- The call that a datagram makes, if it makes one.
def call? (a : Arrival) : Option RpcCall :=
  match Message.decode a.datagram with
  | .ok (.rpc call) => some call
  | _ => none

-- How many blinks the daemon of one place is asked for.
def blinksAt (place : Nat) (history : List Arrival) : Nat :=
  history.countP fun a => a.place == place && a.blink?.isSome

end Arrival

-- A call that the daemon of one place has answered.
structure AnsweredCall where
  place : Nat
  call : RpcCall
  reply : RpcCall
  deriving DecidableEq, Repr

namespace Air

-- The air after a datagram has been handled.
def after (air : Air) (a : Arrival) : Air := (air.receive a.place a.datagram a.time a.draws).2

-- The air after some datagrams have been handled one by one.
def run (air : Air) (history : List Arrival) : Air := history.foldl after air

-- The replies that a datagram brings about, if it makes a call.
def answers (air : Air) (a : Arrival) : List AnsweredCall :=
  match a.call? with
  | none => []
  | some call => (air.receive a.place a.datagram a.time a.draws).1.filterMap fun (place, m) =>
    match m with
    | .rpc reply => some ⟨place, call, reply⟩
    | _ => none

-- The calls that are answered while some datagrams are handled one by one.
def calls (air : Air) : List Arrival → List AnsweredCall
  | [] => []
  | a :: rest => air.answers a ++ (air.after a).calls rest

end Air

end UwbRanging
