import UwbRanging.Proofs.Transport.Traffic

namespace UwbRanging

namespace Endpoint

open TrafficEvent

variable {A : Type} (e : Endpoint A) (datagrams : List (List UInt8)) (seqn : UInt32)

theorem slot?_dispatchAll : (e.dispatchAll datagrams).pending.slot? seqn =
    (e.pending.slot? seqn).map fun slot => slot.or (firstReply seqn (datagrams.map .datagram)) := by
  induction datagrams generalizing e with
  | nil => simp [dispatchAll, firstReply]
  | cons bytes rest ih =>
    change ((e.dispatch bytes).dispatchAll rest).pending.slot? seqn = _
    rw [ih, slot?_dispatch, Option.map_map, List.map_cons, firstReply, firstReply, List.findSome?_cons]
    congr 1
    funext slot
    cases slot <;> cases (datagram bytes).replyTo? seqn <;> rfl

theorem callTimeout_dispatchAll : (e.dispatchAll datagrams).callTimeout = e.callTimeout := by
  induction datagrams generalizing e with
  | nil => rfl
  | cons bytes rest ih => exact (ih (e.dispatch bytes)).trans (e.callTimeout_dispatch bytes)

-- Only how long it waits matters to how an endpoint ends a call.
theorem conclude_congr {e e' : Endpoint A} (h : e'.callTimeout = e.callTimeout) (func : String)
    (reply : Option RpcCall) : e'.conclude func reply = e.conclude func reply := by
  cases reply with
  | none => rw [conclude, conclude, h]
  | some reply => rfl

-- A call ends with the first reply to its number that has come since it was opened.
theorem closeCall_dispatchAll (func : String) (args : RpcArgs) :
    (((e.openCall func args).2.dispatchAll datagrams).closeCall (e.number func args).1).1 =
      e.conclude func (firstReply e.nextSeqn (datagrams.map .datagram)) := by
  have hopened : (e.openCall func args).2.pending.slot? e.nextSeqn = some none := by
    change (e.pending.start e.nextSeqn).slot? e.nextSeqn = _
    rw [PendingCalls.slot?_start, if_pos rfl]
  change ((e.openCall func args).2.dispatchAll datagrams).conclude func
    (((e.openCall func args).2.dispatchAll datagrams).pending.reply? e.nextSeqn) = _
  rw [PendingCalls.reply?_eq, slot?_dispatchAll, hopened]
  exact conclude_congr (callTimeout_dispatchAll _ datagrams) func _

-- The endpoint when a call is over for which these datagrams have come.
def called (func : String) (args : RpcArgs) : Endpoint A :=
  (((e.openCall func args).2.dispatchAll datagrams).closeCall (e.number func args).1).2

theorem devices_called (func : String) (args : RpcArgs) : (e.called datagrams func args).devices = e.devices := by
  have hall (e : Endpoint A) : (e.dispatchAll datagrams).devices = e.devices := by
    induction datagrams generalizing e with
    | nil => rfl
    | cons bytes rest ih => exact (ih (e.dispatch bytes)).trans (by rw [dispatch_eq])
  exact hall (e.openCall func args).2

end Endpoint

namespace Link

open TrafficEvent

variable {A σ : Type} (link : Link σ A) {e : Endpoint A} {state state' : σ} {device : Eui64} {address : A}

theorem callAt_sent {func : String} {args : RpcArgs} {datagrams : List (List UInt8)}
    (hsend : link.send address (Message.rpc (e.number func args).1).encode state = (.ok datagrams, state')) :
    link.callAt address func args (e, state) =
      (e.conclude func (firstReply e.nextSeqn (datagrams.map .datagram)), (e.called datagrams func args, state')) := by
  rw [callAt_eq, hsend, ← e.closeCall_dispatchAll]
  rfl

theorem bind_apply {α β : Type} (m : Exchanging σ A α) (f : α → Exchanging σ A β) (s : Endpoint A × σ) :
    (m >>= f) s = match m s with
      | (.ok a, s') => f a s'
      | (.error error, s') => (.error error, s') := by
  simp only [bind, ExceptT.bind, ExceptT.mk, StateT.bind, ExceptT.bindCont]
  cases m s with
  | mk result s' => cases result <;> rfl

theorem call_known (haddress : e.addressOf device = .ok address) (state : σ) (func : String) (args : RpcArgs) :
    link.call device func args (e, state) = link.callAt address func args (e, state) := by
  have hknown : fetch (fun e => (e.addressOf device, e)) (e, state) = (.ok (.ok address), (e, state)) := by
    rw [fetch, haddress]
  rw [call, bind_apply, hknown]
  rfl

variable {attr : DeviceAttr} {value w : AttrValue}

-- A value that does not pass the check is refused on the spot: neither the endpoint nor what it is linked to sees it.
theorem setAttribute_refused {refusal : InvalidValue} (h : attr.validate value = .error refusal)
    (s : Endpoint A × σ) : link.setAttribute device attr value s = (.error (.invalidAttribute refusal), s) := by
  rw [setAttribute, h]
  rfl

-- Any other value is sent in the form that the check gave it.
theorem setAttribute_checked (h : attr.validate value = .ok w) (haddress : e.addressOf device = .ok address) :
    link.setAttribute device attr value (e, state) =
      let (reply, s) := link.callAt address RpcCall.setAttr { attr := some attr, value := some w } (e, state)
      (reply.bind (valueOf attr), s) := by
  have hcall := link.call_known haddress state RpcCall.setAttr { attr := some attr, value := some w }
  rw [setAttribute, h, ← hcall]
  change ((link.call device RpcCall.setAttr { attr := some attr, value := some w }) >>= fun reply =>
    lift (valueOf attr reply)) (e, state) = _
  rw [bind_apply]
  cases link.call device RpcCall.setAttr { attr := some attr, value := some w } (e, state) with
  | mk reply s => cases reply <;> rfl

end Link

end UwbRanging
