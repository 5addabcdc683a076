import UwbRanging.Transport.Endpoint

namespace UwbRanging

-- How far a call has come. An opened one waits under its number, though its request is not sent yet.
inductive CallStage where
  | numbered
  | opened
  | sent
  -- its request could not be sent
  | refused (error : TransportError)
  | ended (result : Except TransportError RpcArgs)

def CallStage.waits : CallStage → Bool
  | opened => true
  | sent => true
  | refused _ => true
  | _ => false

-- What a caller does with its call, one after the other.
inductive CallAction where
  | register
  | send (failure : Option TransportError)
  -- for the reply, with the deadline passed or not
  | look (expired : Bool)
  deriving DecidableEq, Repr

structure Caller where
  call : RpcCall
  stage : CallStage := .numbered

-- What happens at an endpoint that several callers share. They are counted in the order in which they called.
inductive TrafficEvent where
  | call (func : String) (args : RpcArgs)
  | action (caller : Nat) (action : CallAction)
  | datagram (bytes : List UInt8)
  deriving DecidableEq, Repr

structure Traffic (A : Type) where
  endpoint : Endpoint A
  callers : List Caller := []

variable {A : Type}

-- What an action of a caller does, and how far its call is then. One that is not its turn does nothing. A look that
-- finds no reply ends in another wait unless the deadline has passed.
def Endpoint.act (e : Endpoint A) (call : RpcCall) : CallStage → CallAction → Endpoint A × CallStage
  | .numbered, .register => (e.register call, .opened)
  | .opened, .send none => (e, .sent)
  | .opened, .send (some error) => (e, .refused error)
  | .sent, .look expired =>
    if (e.pending.reply? call.seqn).isSome || expired then
      let (result, e) := e.closeCall call
      (e, .ended result)
    else (e, .sent)
  | .refused error, .look _ => ((e.closeCall call).2, .ended (.error error))
  | stage, _ => (e, stage)

namespace Traffic

def start (e : Endpoint A) : Traffic A := ⟨{ e with pending := {} }, []⟩

def step (s : Traffic A) : TrafficEvent → Traffic A
  | .call func args =>
    let (call, e) := s.endpoint.number func args
    ⟨e, s.callers ++ [⟨call, .numbered⟩]⟩
  | .action i action =>
    match s.callers[i]? with
    | none => s
    | some c =>
      let (e, stage) := s.endpoint.act c.call c.stage action
      ⟨e, s.callers.set i ⟨c.call, stage⟩⟩
  | .datagram bytes => { s with endpoint := s.endpoint.dispatch bytes }

def run (s : Traffic A) (events : List TrafficEvent) : Traffic A := events.foldl step s

-- How many numbers have been given out since the oldest call that is waited for, its own among them. That few calls
-- are waited for is not enough for them to have different numbers, as the numbers can come round to a call that waits
-- long.
def numberSpan (s : Traffic A) : Nat := s.callers.length - s.callers.findIdx fun c => c.stage.waits

end Traffic

end UwbRanging
