import UwbRanging.Proofs.Radio.Validation
import UwbRanging.Proofs.Simulation.Registers
import UwbRanging.Proofs.Transport.Attributes
import UwbRanging.Simulation.Batch

namespace UwbRanging

open Tuning (assign)

namespace TrafficEvent

theorem replyTo?_encode (reply : RpcCall) :
    (datagram (Text.encodeUtf8 (Message.rpc reply).encode)).replyTo? reply.seqn = some reply := by
  have hreply : (datagram (Text.encodeUtf8 (Message.rpc reply).encode)).reply? = some reply := by
    rw [reply?_datagram, Message.decode_encode]
    rfl
  rw [replyTo?, hreply, Option.filter_some, if_pos (beq_self_eq_true _)]

end TrafficEvent

namespace SimDaemon

variable (d : SimDaemon)

-- A daemon with other settings of its radio.
def withConfig (config : RadioConfig) : SimDaemon := { d with radio := { d.radio with config := config } }

theorem setAttribute_eq (attr : DeviceAttr) (value : AttrValue) : d.setAttribute attr value =
    ((assign attr value d.radio.config).1.toOption, d.withConfig (assign attr value d.radio.config).2) := by
  rw [setAttribute, Tuning.assign_eq]
  cases d.radio.config.set attr value <;> rfl

theorem answer_setAttr (seqn : UInt32) (attr : DeviceAttr) (value : AttrValue) :
    d.answer ⟨RpcCall.setAttr, seqn, ⟨some attr, some value⟩⟩ =
      (⟨RpcCall.setAttr, seqn, ⟨some attr, (assign attr value d.radio.config).1.toOption⟩⟩,
        d.withConfig (assign attr value d.radio.config).2) := by
  have hchange : change? ⟨RpcCall.setAttr, seqn, ⟨some attr, some value⟩⟩ = some (attr, value) :=
    change?_eq_some_iff.mpr ⟨rfl, rfl, rfl⟩
  rw [answer, respond, hchange]
  dsimp only
  rw [d.setAttribute_eq]

end SimDaemon

namespace LiveAir

variable (l : LiveAir)

-- When a message comes to its daemon, and the random values of what it brings about.
def arrival : Float := Binary64.ofRatio (l.wait latency).now 1000000000

def draws : List Draws := (Draws.take l.air.daemons.length l.gen).1

-- What a message brings about, and the air after it.
def handle (place : Nat) (m : Message) : List (Nat × Message) × LiveAir :=
  let (replies, air) := l.air.handle place m l.arrival l.draws
  (replies, { l.wait latency with air := air, gen := (Draws.take l.air.daemons.length l.gen).2 })

theorem send_encode (place : Nat) (m : Message) : link.send place m.encode l =
    (.ok ((l.handle place m).1.map fun r => Text.encodeUtf8 r.2.encode), (l.handle place m).2) := by
  rw [handle, ← l.air.receive_encode l.arrival l.draws m place]
  rfl

variable {l} {e : Endpoint Nat} {device : Eui64} {place : Nat} {d : SimDaemon}

theorem handle_rpc (hd : l.air.daemons[place]? = some d) (call : RpcCall) : l.handle place (.rpc call) =
    ([(place, .rpc (d.answer call).1)], { l.wait latency with
      air := l.air.setDaemon place (d.answer call).2, gen := (Draws.take l.air.daemons.length l.gen).2 }) := by
  rw [handle, Air.handle, hd]

theorem exists_send (hd : l.air.daemons[place]? = some d) (call : RpcCall) :
    ∃ l', link.send place (Message.rpc call).encode l =
        (.ok [Text.encodeUtf8 (Message.rpc (d.answer call).1).encode], l') ∧
      l'.air = l.air.setDaemon place (d.answer call).2 := by
  rw [send_encode, handle_rpc hd]
  exact ⟨_, rfl, rfl⟩

variable {attr : DeviceAttr} {value w : AttrValue}

-- A value that passes the check takes effect at the device as if it had been set there on the spot. The caller is told
-- the value in effect, or that there is none.
theorem exists_setAttribute (h : attr.validate value = .ok w) (haddress : e.addressOf device = .ok place)
    (hd : l.air.daemons[place]? = some d) :
    ∃ e' l', link.setAttribute device attr value (e, l) =
        ((assign attr value d.radio.config).1.mapError fun _ => .badReply (.noValue attr), (e', l')) ∧
      l'.air = l.air.setDaemon place (d.withConfig (assign attr value d.radio.config).2) := by
  obtain ⟨l', hsend, hair⟩ := exists_send hd ⟨RpcCall.setAttr, e.nextSeqn, ⟨some attr, some w⟩⟩
  rw [d.answer_setAttr, Tuning.assign_validated h] at hsend hair
  have hcall : link.callAt place RpcCall.setAttr ⟨some attr, some w⟩ (e, l) = (_, (_, l')) := link.callAt_sent hsend
  have hreply := TrafficEvent.replyTo?_encode
    ⟨RpcCall.setAttr, e.nextSeqn, ⟨some attr, (assign attr value d.radio.config).1.toOption⟩⟩
  refine ⟨(link.callAt place RpcCall.setAttr ⟨some attr, some w⟩ (e, l)).2.1, l', ?_, hair⟩
  rw [link.setAttribute_checked h haddress, hcall, List.map_singleton, TrafficEvent.firstReply,
    List.findSome?_singleton, hreply]
  cases (assign attr value d.radio.config).1 <;> rfl

-- What comes of a value that the host is to set an attribute of a daemon to: what the caller is told, and what the
-- host and the air are then.
inductive Setting (attr : DeviceAttr) (value : AttrValue) (place : Nat) (d : SimDaemon) (s : Endpoint Nat × LiveAir) :
    Except TransportError AttrValue × (Endpoint Nat × LiveAir) → Prop where
  -- it is refused before anything is sent
  | refused (hchecked : attr.isChecked = true) (hvalue : attr.settled? value = none) :
      Setting attr value place d s (.error (.invalidAttribute ⟨attr, value.toText⟩), s)
  | done (v : AttrValue) (config : RadioConfig) (s' : Endpoint Nat × LiveAir)
      (hset : d.radio.config.set attr value = .ok (v, config))
      (hair : s'.2.air = s.2.air.setDaemon place (d.withConfig config)) : Setting attr value place d s (.ok v, s')
  -- it is sent though no radio can hold it, and the reply has no value
  | late (s' : Endpoint Nat × LiveAir) (hchecked : attr.isChecked = false) (hvalue : attr.settled? value = none)
      (hair : s'.2.air = s.2.air) : Setting attr value place d s (.error (.badReply (.noValue attr)), s')

theorem setting_setAttribute (haddress : e.addressOf device = .ok place) (hd : l.air.daemons[place]? = some d) :
    Setting attr value place d (e, l) (link.setAttribute device attr value (e, l)) := by
  cases hvalid : attr.validate value with
  | error refusal =>
    obtain ⟨hchecked, hvalue, rfl⟩ := DeviceAttr.validate_eq_error_iff.mp hvalid
    rw [link.setAttribute_refused hvalid]
    exact .refused hchecked hvalue
  | ok w =>
    obtain ⟨e', l', hresult, hair⟩ := exists_setAttribute hvalid haddress hd
    rw [Tuning.assign_eq] at hresult hair
    rw [hresult]
    cases hvalue : attr.settled? value with
    | some v =>
      obtain ⟨config, hset⟩ := RadioConfig.exists_set (r := d.radio.config) hvalue
      rw [hset] at hair ⊢
      exact .done v config _ hset hair
    | none =>
      have hset := RadioConfig.set_of_unsettled (r := d.radio.config) hvalue
      have hchecked : attr.isChecked = false := by
        by_contra htrue
        cases hvalue.symm.trans (DeviceAttr.settled?_of_validate (Bool.eq_true_of_not_eq_false htrue) hvalid)
      rw [hset] at hair ⊢
      exact .late _ hchecked hvalue (hair.trans (Air.setDaemon_self _ hd))

variable (attr value)

-- For an attribute that is checked, the check is as strict as the radio's own, and what no radio can hold is refused
-- without a word to the device. For any other attribute everything passes: a value that no radio can hold is sent, and
-- what the caller is told of then is a reply without a value.
theorem check_before_sending :
    (∀ r : RadioConfig, (r.set attr value).isOk = (attr.settled? value).isSome) ∧
    (∀ r : RadioConfig, (attr.validate value).isOk = (!attr.isChecked || (r.set attr value).isOk)) ∧
    (∀ {σ A : Type} (link : Link σ A) (device : Eui64) (s : Endpoint A × σ), attr.isChecked = true →
      attr.settled? value = none →
      link.setAttribute device attr value s = (.error (.invalidAttribute ⟨attr, value.toText⟩), s)) ∧
    ∀ (e : Endpoint Nat) (l : LiveAir) (device : Eui64) (place : Nat) (d : SimDaemon),
      e.addressOf device = .ok place → l.air.daemons[place]? = some d →
      Setting attr value place d (e, l) (link.setAttribute device attr value (e, l)) := by
  refine ⟨fun r => RadioConfig.isOk_set, fun r => ?_, fun link device s hchecked hvalue => ?_,
    fun e l device place d => setting_setAttribute⟩
  · rw [DeviceAttr.isOk_validate, RadioConfig.isOk_set]
  · exact link.setAttribute_refused (DeviceAttr.validate_eq_error_iff.mpr ⟨hchecked, hvalue, rfl⟩) s

-- An air with a single radio, and a host that knows it.
def oneRadio : LiveAir := { air := ⟨[Endpoint.loneDaemon], {}, 299792458.0⟩, gen := mkStdGen 1 }

def oneDevice : Endpoint Nat := { callTimeout := 1000000000, devices := [(⟨0x70b3d5b1e0000001⟩, 0)] }

theorem addressOf_oneDevice : oneDevice.addressOf ⟨0x70b3d5b1e0000001⟩ = .ok 0 := by decide

theorem daemons_oneRadio : oneRadio.air.daemons[0]? = some Endpoint.loneDaemon := rfl

theorem check_before_sending_oneRadio :
    DeviceAttr.prf.isChecked = true ∧ DeviceAttr.prf.settled? (.int 32) = none ∧
    link.setAttribute ⟨0x70b3d5b1e0000001⟩ .prf (.int 32) (oneDevice, oneRadio) =
      (.error (.invalidAttribute ⟨.prf, "32"⟩), (oneDevice, oneRadio)) ∧
    oneDevice.addressOf ⟨0x70b3d5b1e0000001⟩ = .ok 0 ∧ oneRadio.air.daemons[0]? = some Endpoint.loneDaemon ∧
    DeviceAttr.antd.isChecked = false ∧ DeviceAttr.antd.settled? (.text "0x10000") = none ∧
    Setting .antd (.text "0x10000") 0 Endpoint.loneDaemon (oneDevice, oneRadio)
      (link.setAttribute ⟨0x70b3d5b1e0000001⟩ .antd (.text "0x10000") (oneDevice, oneRadio)) := by
  have hchecked : DeviceAttr.prf.isChecked = true := by decide
  have hprf : DeviceAttr.prf.settled? (.int 32) = none := by decide
  have hantd : DeviceAttr.antd.settled? (.text "0x10000") = none := by decide
  obtain ⟨-, -, hrefused, -⟩ := check_before_sending .prf (.int 32)
  obtain ⟨-, -, -, hsetting⟩ := check_before_sending .antd (.text "0x10000")
  exact ⟨hchecked, hprf, hrefused link _ _ hchecked hprf, addressOf_oneDevice, daemons_oneRadio, rfl, hantd,
    hsetting _ _ _ _ _ addressOf_oneDevice daemons_oneRadio⟩

-- No radio has a crystal trim of 300, and yet this one is asked for it.
theorem check_passes_wideTrim :
    DeviceAttr.xtalt.validate (.int 300) = .ok (.int 300) ∧
    ({} : RadioConfig).set .xtalt (.int 300) = .error ⟨.xtalt, "300"⟩ ∧
    (link.setAttribute ⟨0x70b3d5b1e0000001⟩ .xtalt (.int 300) (oneDevice, oneRadio)).1 =
      .error (.badReply (.noValue .xtalt)) := by
  have hvalid : DeviceAttr.xtalt.validate (.int 300) = .ok (.int 300) := rfl
  have hrefused : assign .xtalt (.int 300) Endpoint.loneDaemon.radio.config =
      (.error ⟨.xtalt, "300"⟩, Endpoint.loneDaemon.radio.config) := by
    rw [Tuning.assign_eq, RadioConfig.set_of_unsettled (by decide)]
    rfl
  obtain ⟨e', l', hresult, -⟩ := exists_setAttribute hvalid addressOf_oneDevice daemons_oneRadio
  exact ⟨hvalid, by decide, by rw [hresult, hrefused]; rfl⟩

variable {attr value}

-- A value means the same to a radio before and after the check, which it passes again as it then is, and it comes out
-- of a datagram as it went in. So to set an attribute of a device from afar is to set it there on the spot.
theorem setAttribute_eq_assign (h : attr.validate value = .ok w) :
    attr.validate w = .ok w ∧
    (∀ r : RadioConfig, r.set attr w = r.set attr value ∧ assign attr w r = assign attr value r ∧
      (r.set attr w).toOption.map Prod.fst = attr.settled? value) ∧
    ofJson? (toJson w) = some w ∧
    (∀ func seqn, Message.decode (Text.encodeUtf8 (Message.rpc ⟨func, seqn, ⟨some attr, some w⟩⟩).encode) =
      .ok (.rpc ⟨func, seqn, ⟨some attr, some w⟩⟩)) ∧
    ∀ (e : Endpoint Nat) (l : LiveAir) (device : Eui64) (place : Nat) (d : SimDaemon),
      e.addressOf device = .ok place → l.air.daemons[place]? = some d →
      ∃ e' l', link.setAttribute device attr value (e, l) =
          ((assign attr value d.radio.config).1.mapError fun _ => .badReply (.noValue attr), (e', l')) ∧
        l'.air = l.air.setDaemon place (d.withConfig (assign attr value d.radio.config).2) := by
  refine ⟨DeviceAttr.validate_validated h,
    fun r => ⟨RadioConfig.set_validated h, Tuning.assign_validated h, ?_⟩, ofJson?_toJson w,
    fun func seqn => Message.decode_encode _, fun e l device place d => exists_setAttribute h⟩
  rw [RadioConfig.set_validated h, RadioConfig.answer_set_eq]

theorem setAttribute_eq_assign_power :
    DeviceAttr.txPower.validate (.text " 0X1f2F3f4F ") = .ok (.text "0x1f2f3f4f") ∧
    oneDevice.addressOf ⟨0x70b3d5b1e0000001⟩ = .ok 0 ∧ oneRadio.air.daemons[0]? = some Endpoint.loneDaemon ∧
    ∃ e' l', link.setAttribute ⟨0x70b3d5b1e0000001⟩ .txPower (.text " 0X1f2F3f4F ") (oneDevice, oneRadio) =
        (.ok (.text "0x1f2f3f4f"), (e', l')) ∧
      l'.air = oneRadio.air.setDaemon 0 (Endpoint.loneDaemon.withConfig { txPower := 0x1f2f3f4f }) := by
  have hvalid : DeviceAttr.txPower.validate (.text " 0X1f2F3f4F ") = .ok (.text "0x1f2f3f4f") := by decide
  obtain ⟨-, -, -, -, hsetting⟩ := setAttribute_eq_assign hvalid
  exact ⟨hvalid, addressOf_oneDevice, daemons_oneRadio,
    hsetting _ _ _ _ _ addressOf_oneDevice daemons_oneRadio⟩

end LiveAir

end UwbRanging
