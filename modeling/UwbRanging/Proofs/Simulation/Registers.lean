import Mathlib.Data.List.Basic
import UwbRanging.Proofs.Message.RoundTrip
import UwbRanging.Proofs.Radio.Register
import UwbRanging.Proofs.Simulation.History

namespace UwbRanging

theorem Arrival.call?_eq_some_iff {a : Arrival} {call : RpcCall} :
    a.call? = some call ↔ Message.decode a.datagram = .ok (.rpc call) := by
  unfold call?
  cases Message.decode a.datagram with
  | error e => simp
  | ok m => cases m <;> simp

namespace SimDaemon

variable (d : SimDaemon) (attr other : DeviceAttr) (value : AttrValue)

theorem setAttribute_value : (d.setAttribute attr value).1 = attr.settled? value := by
  rw [← RadioConfig.answer_set_eq (r := d.radio.config), setAttribute]
  cases d.radio.config.set attr value <;> rfl

-- The setting is what was answered, and the others stay.
theorem get_setAttribute : (d.setAttribute attr value).2.radio.config.get other =
    (if other = attr then (d.setAttribute attr value).1 else none).getD (d.radio.config.get other) := by
  unfold setAttribute
  cases hset : d.radio.config.set attr value with
  | error e => cases Decidable.em (other = attr) <;> simp [*]
  | ok answer =>
    rw [RadioConfig.get_of_set hset other]
    split <;> rfl

end SimDaemon

namespace AnsweredCall

-- What an answered call has set an attribute of the daemon of one place to, as the reply says.
def wrote? (x : AnsweredCall) (place : Nat) (attr : DeviceAttr) : Option AttrValue :=
  if x.place = place ∧ x.call.func = RpcCall.setAttr ∧ x.call.args.attr = some attr then x.reply.args.value else none

end AnsweredCall

namespace SimDaemon

variable (d : SimDaemon) (call : RpcCall)

theorem change?_eq_some_iff {call : RpcCall} {attr : DeviceAttr} {value : AttrValue} :
    change? call = some (attr, value) ↔
      call.func = RpcCall.setAttr ∧ call.args.attr = some attr ∧ call.args.value = some value := by
  unfold change?
  by_cases hfunc : call.func = RpcCall.setAttr
  · rw [if_pos hfunc]
    cases call.args.attr <;> cases call.args.value <;> simp [hfunc]
  · simp [hfunc]

-- A call that sets nothing leaves the daemon alone, and is answered by its function.
theorem respond_of_no_change {call : RpcCall} (h : change? call = none) : (d.respond call).2 = d ∧
    (d.respond call).1 = if call.func = RpcCall.getEui then some (.text d.radio.eui.text)
      else if call.func = RpcCall.getAttr then call.args.attr.map d.radio.config.get else none := by
  rw [respond, h]
  dsimp only
  by_cases heui : call.func = RpcCall.getEui
  · rw [if_pos heui, if_pos heui]
    exact ⟨rfl, rfl⟩
  rw [if_neg heui, if_neg heui]
  by_cases hread : call.func = RpcCall.getAttr
  · rw [if_pos hread, if_pos hread]
    exact ⟨rfl, rfl⟩
  · rw [if_neg hread, if_neg hread]
    exact ⟨rfl, rfl⟩

theorem respond_getEui {call : RpcCall} (hfunc : call.func = RpcCall.getEui) :
    (d.respond call).1 = some (.text d.radio.eui.text) := by
  have hset : RpcCall.getEui ≠ RpcCall.setAttr := by decide
  have hnone : change? call = none := by rw [change?, hfunc, if_neg hset]
  rw [(d.respond_of_no_change hnone).2, if_pos hfunc]

theorem respond_getAttr {call : RpcCall} {attr : DeviceAttr} (hfunc : call.func = RpcCall.getAttr)
    (hattr : call.args.attr = some attr) : (d.respond call).1 = some (d.radio.config.get attr) := by
  have hset : RpcCall.getAttr ≠ RpcCall.setAttr := by decide
  have heui : RpcCall.getAttr ≠ RpcCall.getEui := by decide
  have hnone : change? call = none := by rw [change?, hfunc, if_neg hset]
  rw [(d.respond_of_no_change hnone).2, hfunc, if_neg heui, if_pos rfl, hattr, Option.map_some]

theorem respond_setAttr {call : RpcCall} {attr : DeviceAttr} {value : AttrValue} (hfunc : call.func = RpcCall.setAttr)
    (hattr : call.args.attr = some attr) (hvalue : call.args.value = some value) :
    (d.respond call).1 = attr.settled? value := by
  rw [respond, change?_eq_some_iff.mpr ⟨hfunc, hattr, hvalue⟩]
  exact d.setAttribute_value attr value

theorem respond_of_nothing_set {call : RpcCall} (hfunc : call.func = RpcCall.setAttr) (h : change? call = none) :
    (d.respond call).1 = none := by
  have heui : RpcCall.setAttr ≠ RpcCall.getEui := by decide
  have hread : RpcCall.setAttr ≠ RpcCall.getAttr := by decide
  rw [(d.respond_of_no_change h).2, hfunc, if_neg heui, if_neg hread]

-- A call of no known function fails, and so does one that lacks the attribute or the value that it needs.
theorem respond_of_failed {call : RpcCall} (hfailed : call.func ∉ [RpcCall.getEui, RpcCall.getAttr, RpcCall.setAttr] ∨
    call.func ≠ RpcCall.getEui ∧ call.args.attr = none ∨ call.func = RpcCall.setAttr ∧ call.args.value = none) :
    (d.respond call).1 = none := by
  have hnone : change? call = none := by
    refine Option.eq_none_iff_forall_ne_some.mpr fun change hchange => ?_
    obtain ⟨hfunc, hattr, hvalue⟩ := change?_eq_some_iff.mp hchange
    simp [hfunc, hattr, hvalue] at hfailed
  rcases hfailed with hfunc | ⟨heui, hattr⟩ | ⟨hfunc, -⟩
  · simp only [List.mem_cons, List.not_mem_nil, or_false, not_or] at hfunc
    rw [(d.respond_of_no_change hnone).2, if_neg hfunc.1, if_neg hfunc.2.1]
  · rw [(d.respond_of_no_change hnone).2, if_neg heui, hattr, Option.map_none, ite_self]
  · exact d.respond_of_nothing_set hfunc hnone

-- A call leaves every setting as it was, but the one that its reply gives as set.
theorem get_answer (place : Nat) (attr : DeviceAttr) : (d.answer call).2.radio.config.get attr =
    ((⟨place, call, (d.answer call).1⟩ : AnsweredCall).wrote? place attr).getD (d.radio.config.get attr) := by
  have hreply : (d.answer call).1.args.value = (d.respond call).1 := rfl
  have hafter : (d.answer call).2 = (d.respond call).2 := rfl
  rw [AnsweredCall.wrote?, hreply, hafter]
  cases hchange : change? call with
  | some change =>
    obtain ⟨changed, value⟩ := change
    obtain ⟨hfunc, hattr, -⟩ := change?_eq_some_iff.mp hchange
    simp only [respond, hchange, hfunc, hattr, Option.some.injEq, true_and, eq_comm (a := changed)]
    exact d.get_setAttribute changed attr value
  | none =>
    rw [(d.respond_of_no_change hchange).1]
    split
    · rename_i hset
      rw [d.respond_of_nothing_set hset.2.1 hchange]
      rfl
    · rfl

-- A datagram that makes no call changes no setting.
theorem get_receive_of_no_call (attr : DeviceAttr) {a : Arrival} (hcall : a.call? = none) :
    (d.receive a).radio.config.get attr = d.radio.config.get attr := by
  unfold receive
  cases hdecode : Message.decode a.datagram with
  | error e => rfl
  | ok m =>
    cases m with
    | beacon request =>
      dsimp only [handle]
      split <;> rfl
    | rpc call => rw [Arrival.call?_eq_some_iff.mpr hdecode] at hcall; cases hcall
    | tx report => rfl
    | rx report => rfl

theorem receive_of_call {a : Arrival} {call : RpcCall} (hcall : a.call? = some call) :
    d.receive a = (d.answer call).2 := by
  rw [receive, Arrival.call?_eq_some_iff.mp hcall]
  rfl

end SimDaemon

namespace Air

variable (air : Air) (place : Nat) (attr : DeviceAttr)

-- What the daemon of one place has an attribute set to.
def setting? (air : Air) (place : Nat) (attr : DeviceAttr) : Option AttrValue :=
  air.daemons[place]?.map fun d => d.radio.config.get attr

-- A call is answered by the daemon that it comes to, with one reply.
theorem receive_call {a : Arrival} {call : RpcCall} (hcall : a.call? = some call) {d : SimDaemon}
    (hd : air.daemons[a.place]? = some d) :
    (air.receive a.place a.datagram a.time a.draws).1 = [(a.place, .rpc (d.answer call).1)] := by
  rw [receive, Arrival.call?_eq_some_iff.mp hcall]
  dsimp only
  rw [handle, hd]

theorem answers_of_call {a : Arrival} {call : RpcCall} (hcall : a.call? = some call) {d : SimDaemon}
    (hd : air.daemons[a.place]? = some d) : air.answers a = [⟨a.place, call, (d.answer call).1⟩] := by
  rw [answers, hcall]
  dsimp only
  rw [air.receive_call hcall hd]
  rfl

theorem place_of_mem_answers {a : Arrival} {x : AnsweredCall} (hx : x ∈ air.answers a) : x.place = a.place := by
  cases hcall : a.call? with
  | none =>
    rw [answers, hcall] at hx
    cases hx
  | some call =>
    cases hd : air.daemons[a.place]? with
    | none =>
      rw [answers, hcall, receive, Arrival.call?_eq_some_iff.mp hcall] at hx
      simp [handle, hd] at hx
    | some d =>
      rw [air.answers_of_call hcall hd, List.mem_singleton] at hx
      rw [hx]

-- A datagram gives the setting that its call is answered with, and leaves all others as they were.
theorem setting?_after (a : Arrival) : (air.after a).setting? place attr = (air.setting? place attr).map fun before =>
    ((air.answers a).filterMap (·.wrote? place attr)).getLast?.getD before := by
  rw [setting?, setting?, after_eq, List.getElem?_modify]
  cases hd : air.daemons[place]? with
  | none => rfl
  | some d =>
    change some ((if a.place = place then d.receive a else d).radio.config.get attr) = some _
    congr 1
    by_cases hplace : a.place = place
    · subst hplace
      rw [if_pos rfl]
      cases hcall : a.call? with
      | none => simp [answers, hcall, d.get_receive_of_no_call attr hcall]
      | some call =>
        rw [d.receive_of_call hcall, d.get_answer call a.place attr, air.answers_of_call hcall hd]
        cases hwrote : (⟨a.place, call, (d.answer call).1⟩ : AnsweredCall).wrote? a.place attr <;> simp [hwrote]
    · have hnone : (air.answers a).filterMap (·.wrote? place attr) = [] := by
        refine List.filterMap_eq_nil_iff.mpr fun x hx => ?_
        rw [AnsweredCall.wrote?, air.place_of_mem_answers hx, if_neg (hplace ·.1)]
      rw [if_neg hplace, hnone]
      rfl

theorem setting?_after_call {a : Arrival} {call : RpcCall} (hcall : a.call? = some call) {d : SimDaemon}
    (hd : air.daemons[a.place]? = some d) :
    (air.after a).setting? place attr = (air.setting? place attr).map fun before =>
      ((⟨a.place, call, (d.answer call).1⟩ : AnsweredCall).wrote? place attr).getD before := by
  rw [setting?_after, answers_of_call air hcall hd]
  congr 1
  funext before
  cases hwrote : (⟨a.place, call, (d.answer call).1⟩ : AnsweredCall).wrote? place attr <;> simp [hwrote]

theorem setting?_after_unwritten {a : Arrival} {call : RpcCall} (hcall : a.call? = some call) {d : SimDaemon}
    (hd : air.daemons[a.place]? = some d)
    (hnone : (⟨a.place, call, (d.answer call).1⟩ : AnsweredCall).wrote? place attr = none) :
    (air.after a).setting? place attr = air.setting? place attr := by
  rw [setting?_after_call air place attr hcall hd, hnone]
  exact Option.map_id'

theorem setting?_run (history : List Arrival) : (air.run history).setting? place attr =
    (air.setting? place attr).map fun start =>
      ((air.calls history).filterMap (·.wrote? place attr)).getLast?.getD start := by
  induction history generalizing air with
  | nil => exact Option.map_id'.symm
  | cons a rest ih =>
    rw [run_cons, ih, setting?_after, Option.map_map, calls, List.filterMap_append, List.getLast?_append]
    congr 1
    funext start
    cases (((air.after a).calls rest).filterMap (·.wrote? place attr)).getLast? <;> rfl

variable {air}

-- The radio of a place keeps its EUI, and has its settings from the calls that were answered.
theorem exists_daemon_run (history : List Arrival) {place : Nat} {d : SimDaemon} (hd : air.daemons[place]? = some d) :
    ∃ d', (air.run history).daemons[place]? = some d' ∧ d'.radio.eui = d.radio.eui ∧
      ∀ attr, d'.radio.config.get attr =
        ((air.calls history).filterMap (·.wrote? place attr)).getLast?.getD (d.radio.config.get attr) := by
  have heuis : (air.run history).euis[place]? = air.euis[place]? := by rw [euis_run]
  rw [euis, euis, List.getElem?_map, List.getElem?_map, hd, Option.map_some] at heuis
  obtain ⟨d', hd', heui⟩ := Option.map_eq_some_iff.mp heuis
  refine ⟨d', hd', heui, fun attr => ?_⟩
  have hsetting := air.setting?_run place attr history
  rw [setting?, setting?, hd, hd'] at hsetting
  exact Option.some.inj hsetting

-- What the daemon of one place has to reply to a call after some history, and what the call may change. The daemon
-- is given as it was at first.
structure Faithful (air : Air) (history : List Arrival) (place : Nat) (d : SimDaemon) (call reply : RpcCall)
    (later : Air) : Prop where
  func : reply.func = call.func
  seqn : reply.seqn = call.seqn
  attr : reply.args.attr = call.args.attr
  eui : call.func = RpcCall.getEui → reply.args.value = some (.text d.radio.eui.text)
  -- what is read is what the last successful setting was answered with
  read : ∀ attr, call.func = RpcCall.getAttr → call.args.attr = some attr →
    reply.args.value = (air.run history).setting? place attr ∧
    reply.args.value =
      some (((air.calls history).filterMap (·.wrote? place attr)).getLast?.getD (d.radio.config.get attr))
  -- a value that the radio can hold is answered in the form in which it is then held, and any other one is refused
  write : ∀ attr value, call.func = RpcCall.setAttr → call.args.attr = some attr → call.args.value = some value →
    reply.args.value = attr.settled? value
  failed : call.func ∉ [RpcCall.getEui, RpcCall.getAttr, RpcCall.setAttr] ∨
    call.func ≠ RpcCall.getEui ∧ call.args.attr = none ∨ call.func = RpcCall.setAttr ∧ call.args.value = none →
    reply.args.value = none
  effect : ∀ attr v, call.func = RpcCall.setAttr → call.args.attr = some attr → reply.args.value = some v →
    later.setting? place attr = some v ∧
    ∀ place' attr', (place', attr') ≠ (place, attr) →
      later.setting? place' attr' = (air.run history).setting? place' attr'
  noEffect : call.func ≠ RpcCall.setAttr ∨ call.args.attr = none ∨ reply.args.value = none →
    ∀ place' attr', later.setting? place' attr' = (air.run history).setting? place' attr'

-- Each simulated radio is a file of registers. It answers every call with one reply, reads what was last set in it,
-- and whatever else comes to this or another radio in between changes none of its registers.
theorem registers_faithful {a : Arrival} {call : RpcCall} (hcall : a.call? = some call) {d : SimDaemon}
    (hd : air.daemons[a.place]? = some d) (history : List Arrival) :
    ∃ reply, ((air.run history).receive a.place a.datagram a.time a.draws).1 = [(a.place, .rpc reply)] ∧
      air.Faithful history a.place d call reply (air.run (history ++ [a])) := by
  obtain ⟨d', hd', heui, hget⟩ := exists_daemon_run history hd
  have hlater : air.run (history ++ [a]) = (air.run history).after a := List.foldl_concat ..
  refine ⟨_, receive_call _ hcall hd', ?_⟩
  rw [hlater]
  constructor
  case func => rfl
  case seqn => rfl
  case attr => rfl
  case eui =>
    intro hfunc
    rw [← heui]
    exact d'.respond_getEui hfunc
  case read =>
    intro attr hfunc hattr
    have hvalue : (d'.answer call).1.args.value = some (d'.radio.config.get attr) := d'.respond_getAttr hfunc hattr
    rw [setting?, hd', hvalue]
    exact ⟨rfl, congrArg some (hget attr)⟩
  case write =>
    intro attr value hfunc hattr hvalue
    exact d'.respond_setAttr hfunc hattr hvalue
  case failed => exact d'.respond_of_failed
  case effect =>
    intro attr v hfunc hattr hv
    refine ⟨?_, fun place' attr' hne => ?_⟩
    · rw [setting?_after_call _ _ _ hcall hd', AnsweredCall.wrote?, if_pos ⟨rfl, hfunc, hattr⟩, hv, setting?, hd']
      rfl
    · refine setting?_after_unwritten _ _ _ hcall hd' (if_neg fun hwrote => hne ?_)
      rw [← hwrote.1, ← Option.some.inj (hattr.symm.trans hwrote.2.2)]
  case noEffect =>
    intro hnone place' attr'
    refine setting?_after_unwritten _ _ _ hcall hd' ?_
    rw [AnsweredCall.wrote?]
    split
    · rename_i hwrote
      rcases hnone with hfunc | hattr | hvalue
      · exact absurd hwrote.2.1 hfunc
      · cases hattr.symm.trans hwrote.2.2
      · exact hvalue
    · rfl

-- A call as it comes to a daemon.
def callRequest (place : Nat) (call : RpcCall) : Arrival :=
  ⟨place, Text.encodeUtf8 (Message.rpc call).encode, 0.0, []⟩

theorem call?_callRequest (place : Nat) (call : RpcCall) : (callRequest place call).call? = some call :=
  Arrival.call?_eq_some_iff.mpr (Message.rpc call).decode_encode

theorem after_callRequest (air : Air) (place : Nat) (call : RpcCall) : air.after (callRequest place call) =
    { air with daemons := air.daemons.modify place fun d => (d.answer call).2 } := by
  have hreceive : (fun d : SimDaemon => d.receive (callRequest place call)) = fun d => (d.answer call).2 :=
    funext fun d => d.receive_of_call (call?_callRequest place call)
  rw [after_eq, hreceive]
  rfl

-- The power is set from a hexadecimal text. Then a value is refused, and the other radio's power is set.
def settingPower : List Arrival :=
  [callRequest 0 ⟨RpcCall.setAttr, 1, ⟨some .txPower, some (.text " 0XfF ")⟩⟩,
    callRequest 0 ⟨RpcCall.setAttr, 2, ⟨some .txPower, some (.int (-1))⟩⟩,
    callRequest 1 ⟨RpcCall.setAttr, 3, ⟨some .txPower, some (.int 7)⟩⟩]

theorem registers_faithful_power :
    let d : SimDaemon := ⟨{ eui := ⟨1⟩, position := ⟨0.0, 0.0, 0.0⟩ }, ⟨0⟩⟩
    let other : SimDaemon := ⟨{ eui := ⟨2⟩, position := ⟨3.0, 0.0, 0.0⟩ }, ⟨0⟩⟩
    let air : Air := ⟨[d, other], {}, 299792458.0⟩
    let call : RpcCall := ⟨RpcCall.getAttr, 4, ⟨some .txPower, none⟩⟩
    (callRequest 0 call).call? = some call ∧ air.daemons[0]? = some d ∧
    ∃ reply, ((air.run settingPower).receive 0 (callRequest 0 call).datagram 0.0 []).1 = [(0, .rpc reply)] ∧
      reply.seqn = 4 ∧ reply.args.value = some (.text "0x000000ff") := by
  intro d other air call
  have hcall := call?_callRequest 0 call
  have hsetting : (air.run settingPower).setting? 0 .txPower = some (.text "0x000000ff") := by
    rw [settingPower, run_cons, run_cons, run_cons, after_callRequest, after_callRequest, after_callRequest]
    decide
  have hdaemon : air.daemons[0]? = some d := rfl
  obtain ⟨reply, hreply, hfaithful⟩ := registers_faithful hcall hdaemon settingPower
  refine ⟨hcall, hdaemon, reply, hreply, hfaithful.seqn, ?_⟩
  rw [(hfaithful.read .txPower rfl rfl).1]
  exact hsetting

end Air

end UwbRanging
