import Mathlib.Data.List.Basic
import UwbRanging.Proofs.Simulation.BlinkPath
import UwbRanging.Simulation.History

namespace UwbRanging

namespace SimDaemon

-- A daemon after a message. A blink takes a number, and a call may change the settings.
def handle (d : SimDaemon) : Message → SimDaemon
  | .beacon request => if request.blinkId.isOk then { d with counter := d.counter.draw.2 } else d
  | .rpc call => (d.answer call).2
  | .tx _ => d
  | .rx _ => d

-- A daemon after a datagram.
def receive (d : SimDaemon) (a : Arrival) : SimDaemon :=
  match Message.decode a.datagram with
  | .ok m => d.handle m
  | .error _ => d

variable (d : SimDaemon)

theorem answer_keeps (call : RpcCall) :
    (d.answer call).2.radio.eui = d.radio.eui ∧ (d.answer call).2.counter = d.counter := by
  have hanswer : (d.answer call).2 = (d.respond call).2 := rfl
  rw [hanswer, respond]
  cases change? call with
  | none =>
    dsimp only
    split
    · exact ⟨rfl, rfl⟩
    split <;> exact ⟨rfl, rfl⟩
  | some change =>
    dsimp only [setAttribute]
    split <;> exact ⟨rfl, rfl⟩

-- The only thing that takes a number is a blink.
theorem receive_keeps (a : Arrival) : (d.receive a).radio.eui = d.radio.eui ∧
    (d.receive a).counter.next = d.counter.next + if a.blink?.isSome then 1 else 0 := by
  unfold receive Arrival.blink?
  cases Message.decode a.datagram with
  | error e => simp
  | ok m =>
    cases m with
    | beacon request =>
      cases hid : request.blinkId <;> simp [handle, hid, Except.isOk, Except.toBool, Except.toOption, SequenceCounter.draw]
    | rpc call => simp [handle, d.answer_keeps call]
    | tx r => simp [handle]
    | rx r => simp [handle]

end SimDaemon

namespace Air

variable (air : Air)

theorem setDaemon_self {index : Nat} {d : SimDaemon} (hd : air.daemons[index]? = some d) :
    air.setDaemon index d = air := by
  obtain ⟨hindex, rfl⟩ := List.getElem?_eq_some_iff.mp hd
  rw [setDaemon, List.set_getElem_self]

theorem transmit_air {index : Nat} {d : SimDaemon} (hd : air.daemons[index]? = some d) (request : BeaconRequest)
    (t : Float) (draws : List Draws) :
    (air.transmit index d request t draws).2 = air.setDaemon index (d.handle (.beacon request)) := by
  rw [SimDaemon.handle]
  cases hid : request.blinkId with
  | error e =>
    rw [transmit, hid]
    simp [Except.isOk, Except.toBool, setDaemon_self air hd]
  | ok id =>
    obtain ⟨bytes, -, -, htransmit⟩ := air.exists_transmit t draws hd hid
    rw [htransmit]
    rfl

theorem handle_air {index : Nat} {d : SimDaemon} (hd : air.daemons[index]? = some d) (m : Message) (t : Float)
    (draws : List Draws) : (air.handle index m t draws).2 = air.setDaemon index (d.handle m) := by
  rw [handle, hd]
  cases m with
  | beacon request => exact air.transmit_air hd request t draws
  | rpc call => rfl
  | tx r => exact (air.setDaemon_self hd).symm
  | rx r => exact (air.setDaemon_self hd).symm

-- A datagram concerns the daemon that it comes to, and no other one.
theorem after_eq (a : Arrival) :
    air.after a = { air with daemons := air.daemons.modify a.place fun d => d.receive a } := by
  unfold after receive SimDaemon.receive
  cases Message.decode a.datagram with
  | error e => exact congrArg (fun ds => { air with daemons := ds }) (List.modify_id a.place air.daemons).symm
  | ok m =>
    dsimp only
    cases hd : air.daemons[a.place]? with
    | none =>
      rw [handle, hd, List.modify_eq_self (List.getElem?_eq_none_iff.mp hd)]
    | some d =>
      rw [air.handle_air hd, setDaemon, List.modify_eq_set_getElem?, hd]
      rfl

theorem run_cons (a : Arrival) (history : List Arrival) : air.run (a :: history) = (air.after a).run history := rfl

@[simp] theorem noise_run (history : List Arrival) : (air.run history).noise = air.noise := by
  induction history generalizing air with
  | nil => rfl
  | cons a history ih => rw [run_cons, ih, after_eq]

-- The EUIs of the daemons in the order of their places.
def euis (air : Air) : List Eui64 := air.daemons.map (·.radio.eui)

theorem euis_after (a : Arrival) : (air.after a).euis = air.euis := by
  refine List.ext_getElem? fun place => ?_
  rw [after_eq, euis, euis, List.getElem?_map, List.getElem?_map, List.getElem?_modify]
  cases air.daemons[place]? with
  | none => rfl
  | some d => by_cases hplace : a.place = place <;> simp [hplace, (d.receive_keeps a).1]

@[simp] theorem euis_run (history : List Arrival) : (air.run history).euis = air.euis := by
  induction history generalizing air with
  | nil => rfl
  | cons a history ih => rw [run_cons, ih, euis_after]

variable {air}

-- The number of a daemon counts the blinks that it was asked for.
theorem counter_run {history : List Arrival} {place : Nat} {d d' : SimDaemon} (hd : air.daemons[place]? = some d)
    (hd' : (air.run history).daemons[place]? = some d') :
    d'.counter.next = d.counter.next + UInt8.ofNat (Arrival.blinksAt place history) := by
  induction history generalizing air d with
  | nil =>
    cases hd.symm.trans hd'
    exact (UInt8.add_zero _).symm
  | cons a history ih =>
    have hstep : (air.after a).daemons[place]? = some (if a.place = place then d.receive a else d) := by
      rw [after_eq, List.getElem?_modify, hd]
      rfl
    rw [ih hstep hd', Arrival.blinksAt, Arrival.blinksAt, List.countP_cons, UInt8.ofNat_add]
    by_cases hplace : a.place = place
    · rw [if_pos hplace, (d.receive_keeps a).2]
      cases a.blink?.isSome <;> simp [hplace, UInt8.add_assoc, UInt8.add_comm]
    · simp [hplace]

end Air

end UwbRanging
