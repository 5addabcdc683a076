import UwbRanging.Frame.Basic

namespace UwbRanging

-- The counters of some radio interfaces, and the frames that are held to be sent by them.
structure Station (ι κ : Type) where
  counters : ι → SequenceCounter
  frames : κ → Frame

-- What is asked of a station.
inductive StationOp (ι κ : Type) where
  | next (i : ι)
  | peek (i : ι)
  | encode (k : κ) (i : ι)
  -- a frame is built, or changed
  | place (k : κ) (f : Frame)

-- What has come of it. An encoding shows the frame before and after it.
inductive StationEvent (ι κ : Type) where
  | next (i : ι) (n : UInt8)
  | peek (i : ι) (n : UInt8)
  | encode (k : κ) (i : ι) (before after : Frame) (outcome : Except FrameError (List UInt8))
  | place (k : κ) (f : Frame)

namespace StationEvent

variable {ι κ : Type} [DecidableEq ι]

def isNext (i : ι) : StationEvent ι κ → Bool
  | next j _ => j = i
  | _ => false

-- Whether a frame that had no number went out under one of this counter.
def isFirstSend (i : ι) : StationEvent ι κ → Bool
  | encode _ j before _ outcome => j = i && before.header.seq.isNone && outcome.isOk
  | _ => false

-- Whether this counter handed out a number: to its caller, or to a frame that went out.
def isDraw (i : ι) (event : StationEvent ι κ) : Bool := event.isNext i || event.isFirstSend i

-- That number, as the caller was told or as the frame has it.
def given? (i : ι) (event : StationEvent ι κ) : Option UInt8 :=
  if event.isDraw i then
    match event with
    | next _ n => some n
    | encode _ _ _ after _ => after.header.seq
    | _ => none
  else none

-- Whether this is not a frame that was refused for its payload.
def isSettled : StationEvent ι κ → Bool
  | encode _ _ _ _ (.error error) => error = .unsupported .security
  | _ => true

end StationEvent

namespace Station

-- A table with one of its values replaced.
def replace {α β : Type} [DecidableEq α] (table : α → β) (a : α) (b : β) : α → β :=
  fun x => if x = a then b else table x

variable {ι κ : Type} [DecidableEq ι] [DecidableEq κ]

def setCounter (s : Station ι κ) (i : ι) (counter : SequenceCounter) : Station ι κ :=
  { s with counters := replace s.counters i counter }

def setFrame (s : Station ι κ) (k : κ) (f : Frame) : Station ι κ :=
  { s with frames := replace s.frames k f }

-- What the frame `k` comes to if it is encoded with the counter `i`.
def send (s : Station ι κ) (k : κ) (i : ι) : Frame.Encoded := (s.frames k).encode (s.counters i)

def step (s : Station ι κ) : StationOp ι κ → StationEvent ι κ × Station ι κ
  | .next i =>
    let (n, counter) := (s.counters i).draw
    (.next i n, s.setCounter i counter)
  | .peek i => (.peek i (s.counters i).next, s)
  | .encode k i =>
    let sent := s.send k i
    (.encode k i (s.frames k) sent.frame sent.outcome, (s.setFrame k sent.frame).setCounter i sent.counter)
  | .place k f => (.place k f, s.setFrame k f)

-- The station after some operations.
def run (s : Station ι κ) (ops : List (StationOp ι κ)) : Station ι κ := ops.foldl (fun s op => (s.step op).2) s

-- What has come of them, in their order.
def trace (s : Station ι κ) : List (StationOp ι κ) → List (StationEvent ι κ)
  | [] => []
  | op :: rest => (s.step op).1 :: (s.step op).2.trace rest

end Station

end UwbRanging
