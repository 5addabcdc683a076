import UwbRanging.Proofs.Simulation.Setting

namespace UwbRanging

namespace Endpoint

variable {A : Type} {e e' : Endpoint A}

-- Only its devices matter to how an endpoint looks up an address.
theorem addressOf_congr (h : e'.devices = e.devices) (device : Eui64) : e'.addressOf device = e.addressOf device := by
  rw [addressOf, h, addressOf]

theorem mem_of_addressOf {device : Eui64} {address : A} (h : e.addressOf device = .ok address) :
    (device, address) ∈ e.devices := by
  unfold addressOf at h
  cases hlookup : e.devices.lookup device with
  | none =>
    rw [hlookup] at h
    cases h
  | some other =>
    rw [hlookup] at h
    cases h
    obtain ⟨before, after, heq, -⟩ := List.lookup_eq_some_iff.mp hlookup
    rw [heq]
    exact List.mem_append_right _ (List.mem_cons_self ..)

end Endpoint

namespace LiveAir

open TrafficEvent

variable (l : LiveAir)

theorem euis_handle (place : Nat) (m : Message) : (l.handle place m).2.air.euis = l.air.euis := by
  change (l.air.handle place m l.arrival l.draws).2.euis = _
  rw [← l.air.receive_encode l.arrival l.draws m place]
  exact l.air.euis_after ⟨place, Text.encodeUtf8 m.encode, l.arrival, l.draws⟩

-- The reply of a daemon that is asked for its radio's EUI.
def euiReply (seqn : UInt32) (eui : Eui64) : RpcCall := ⟨RpcCall.getEui, seqn, ⟨none, some (.text eui.text)⟩⟩

-- The host when it has connected to a daemon of this EUI.
def connected (e : Endpoint Nat) (place : Nat) (eui : Eui64) : Endpoint Nat :=
  (e.called [Text.encodeUtf8 (Message.rpc (euiReply e.nextSeqn eui)).encode] RpcCall.getEui {}).addDevice eui place

section Daemon

variable {l} {place : Nat} {d : SimDaemon} (hd : l.air.daemons[place]? = some d)
include hd

theorem handle_getEui (seqn : UInt32) : l.handle place (.rpc ⟨RpcCall.getEui, seqn, {}⟩) =
    ([(place, .rpc (euiReply seqn d.radio.eui))],
      { l.wait latency with gen := (Draws.take l.air.daemons.length l.gen).2 }) := by
  have hanswer : d.answer ⟨RpcCall.getEui, seqn, {}⟩ = (euiReply seqn d.radio.eui, d) := rfl
  rw [handle_rpc hd, hanswer, l.air.setDaemon_self hd]
  rfl

-- A daemon tells its radio's EUI, and nothing changes in the air.
theorem connect_eq (e : Endpoint Nat) : link.connect place (e, l) = (.ok d.radio.eui,
    (connected e place d.radio.eui, { l.wait latency with gen := (Draws.take l.air.daemons.length l.gen).2 })) := by
  have hsend := l.send_encode place (.rpc ⟨RpcCall.getEui, e.nextSeqn, {}⟩)
  rw [handle_getEui hd] at hsend
  have hcall : link.callAt place RpcCall.getEui {} (e, l) = _ := link.callAt_sent hsend
  have hreply : replyTo? e.nextSeqn (datagram (Text.encodeUtf8
      (Message.rpc (euiReply e.nextSeqn d.radio.eui)).encode)) = some (euiReply e.nextSeqn d.radio.eui) :=
    replyTo?_encode (euiReply e.nextSeqn d.radio.eui)
  rw [Link.connect, Link.bind_apply, hcall, List.map_singleton, List.map_singleton, firstReply,
    List.findSome?_singleton, hreply]
  dsimp only [Endpoint.conclude, euiReply]
  rw [if_pos rfl]
  dsimp only
  rw [d.radio.eui.parse_text]
  rfl

end Daemon

-- Of all the air it is only the EUI that matters to the one who connects.
theorem exists_connect (e : Endpoint Nat) {euis : List Eui64} {place : Nat} {eui : Eui64}
    (heui : euis[place]? = some eui) (now : Nat) (gen : StdGen) :
    ∃ e' now' gen', e'.devices = (e.addDevice eui place).devices ∧ ∀ air : Air, air.euis = euis →
      link.connect place (e, ⟨air, now, gen⟩) = (.ok eui, (e', ⟨air, now', gen'⟩)) := by
  refine ⟨connected e place eui, now + latency, (Draws.take euis.length gen).2, ?devices, fun air heuis => ?connect⟩
  case devices => rw [connected, Endpoint.addDevice, Endpoint.addDevice, e.devices_called]
  case connect =>
    obtain ⟨d, hd, rfl⟩ : ∃ d, air.daemons[place]? = some d ∧ d.radio.eui = eui := by
      rw [← heuis, Air.euis, List.getElem?_map] at heui
      exact Option.map_eq_some_iff.mp heui
    have hlength : euis.length = air.daemons.length := by rw [← heuis, Air.euis, List.length_map]
    rw [hlength]
    exact connect_eq hd e

end LiveAir

namespace Batch

-- Connecting to the daemons from one place on. The host knows a place of every device that it knows.
theorem exists_connect_range' {euis : List Eui64} (e : Endpoint Nat) (hknown : ∀ p ∈ e.devices, euis[p.2]? = some p.1)
    (now : Nat) (gen : StdGen) {start count : Nat} (hlength : euis.length = start + count) :
    ∃ e' now' gen', (∀ p ∈ e'.devices, euis[p.2]? = some p.1) ∧ ∀ air : Air, air.euis = euis →
      connectAll (List.range' start count) (e, ⟨air, now, gen⟩) =
        (.ok (euis.drop start), (e', ⟨air, now', gen'⟩)) := by
  induction count generalizing start e now gen with
  | zero =>
    refine ⟨e, now, gen, hknown, fun air _ => ?_⟩
    rw [List.drop_eq_nil_of_le (by omega)]
    rfl
  | succ count ih =>
    have hlt : start < euis.length := by omega
    have heui : euis[start]? = some euis[start] := List.getElem?_eq_getElem hlt
    obtain ⟨e₁, now₁, gen₁, hdevices, hconnect⟩ := LiveAir.exists_connect e heui now gen
    have hknown₁ : ∀ p ∈ e₁.devices, euis[p.2]? = some p.1 := by
      rw [hdevices]
      refine List.forall_mem_cons.mpr ⟨heui, fun p hp => hknown p (List.mem_filter.mp hp).1⟩
    have hlength₁ : euis.length = start + 1 + count := by omega
    obtain ⟨e₂, now₂, gen₂, hknown₂, hrest⟩ := ih e₁ hknown₁ now₁ gen₁ hlength₁
    refine ⟨e₂, now₂, gen₂, hknown₂, fun air heuis => ?_⟩
    have hafter := hrest air heuis
    rw [connectAll] at hafter
    rw [connectAll, List.range'_succ, List.mapM_cons, Link.bind_apply, hconnect air heuis]
    dsimp only
    rw [Link.bind_apply, hafter, List.drop_eq_getElem_cons hlt]
    rfl

-- Connecting to all daemons gives their EUIs in the order of the places, and nothing else of the air matters to it.
theorem exists_connectAll (euis : List Eui64) (e : Endpoint Nat) (hfresh : e.devices = []) (now : Nat) (gen : StdGen) :
    ∃ e' now' gen', (∀ device place, e'.addressOf device = .ok place → euis[place]? = some device) ∧
      ∀ air : Air, air.euis = euis →
        connectAll (List.range euis.length) (e, ⟨air, now, gen⟩) = (.ok euis, (e', ⟨air, now', gen'⟩)) := by
  obtain ⟨e', now', gen', hknown, hconnect⟩ :=
    exists_connect_range' e (by rw [hfresh]; exact nofun) now gen (Nat.zero_add euis.length).symm
  refine ⟨e', now', gen', fun device place hplace => hknown _ (Endpoint.mem_of_addressOf hplace), ?_⟩
  rw [List.range_eq_range']
  exact hconnect

end Batch

end UwbRanging
