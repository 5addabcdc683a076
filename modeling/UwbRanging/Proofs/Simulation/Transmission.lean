import UwbRanging.Proofs.Exchange.Broadcast
import UwbRanging.Proofs.Simulation.History

namespace UwbRanging

namespace Air

variable (air : Air) (sender : SimRadio)

-- A sender reports its own frame, and another radio reports it if it is on the sender's channel and its report does
-- not get lost.
def Reports (radio : SimRadio) (draws : Draws) : Prop :=
  radio.eui = sender.eui ∨ (radio.config.channel = sender.config.channel ∧ air.noise.loses draws = false)

instance (radio : SimRadio) (draws : Draws) : Decidable (air.Reports sender radio draws) :=
  inferInstanceAs (Decidable (_ ∨ _))

variable {air sender} {radio : SimRadio} {draws : Draws}

-- Only a sender's own record has no link quality.
theorem lqi_timestamp (radio : SimRadio) (t : Float) (rx : Option Reception) (noise : Noise) (draws : Draws) :
    (radio.timestamp t rx noise draws).info.lqi = 0 ↔ rx = none := by
  cases rx with
  | none => exact iff_of_true rfl rfl
  | some rx =>
    refine iff_of_false (fun hlqi => ?_) nofun
    have hvalue : (UInt16.ofNat (30 + draws.quality)).toNat = (30 + draws.quality) % 2 ^ 16 := UInt16.toNat_ofNat'
    have hquality := draws.quality.isLt
    change UInt16.ofNat (30 + draws.quality) = 0 at hlqi
    rw [hlqi, UInt16.toNat_zero] at hvalue
    omega

theorem exists_report (h : air.Reports sender radio draws) (frame : List UInt8) (t : Float) :
    ∃ m r, air.report? sender radio frame t draws = some m ∧ (m = .tx r ∨ m = .rx r) ∧ r.frame = Hex.encode frame ∧
      r.anchor = radio.eui ∧ r.src.or (some sender.eui) = some sender.eui ∧
      (r.info.lqi = 0 ↔ radio.eui = sender.eui) := by
  unfold report?
  by_cases hown : radio.eui = sender.eui
  · rw [if_pos hown]
    exact ⟨_, _, rfl, .inl rfl, rfl, rfl, rfl, iff_of_true ((lqi_timestamp ..).mpr rfl) hown⟩
  · obtain ⟨hchannel, hkept⟩ := h.resolve_left hown
    have hheard : ¬ (radio.config.channel != sender.config.channel || air.noise.loses draws) = true := by
      simp [hchannel, hkept]
    rw [if_neg hown, if_neg hheard]
    exact ⟨_, _, rfl, .inr rfl, rfl, rfl, rfl, iff_of_false (fun hlqi => nomatch (lqi_timestamp ..).mp hlqi) hown⟩

theorem report?_eq_none (h : ¬ air.Reports sender radio draws) (frame : List UInt8) (t : Float) :
    air.report? sender radio frame t draws = none := by
  obtain ⟨hown, hheard⟩ := not_or.mp h
  have hsilent : (radio.config.channel != sender.config.channel || air.noise.loses draws) = true := by
    simpa [Decidable.imp_iff_not_or] using hheard
  rw [report?, if_neg hown, if_pos hsilent]

end Air

-- The records that some replies carry.
def deliveries (replies : List (Nat × Message)) : List Delivery := replies.filterMap (·.2.delivery?)

theorem deliveries_cons {reply : Nat × Message} {d : Delivery} (h : reply.2.delivery? = some d)
    (replies : List (Nat × Message)) : deliveries (reply :: replies) = d :: deliveries replies :=
  List.filterMap_cons_some h

-- The same, as they travel.
theorem deliveries_encode (replies : List (Nat × Message)) :
    ((replies.map fun r => Text.encodeUtf8 r.2.encode).filterMap fun d =>
      (Message.decode d).toOption.bind Message.delivery?) = deliveries replies := by
  rw [List.filterMap_map]
  refine List.filterMap_congr fun r _ => ?_
  simp [Message.decode_encode, Except.toOption]

namespace Air

variable (air : Air) (sender : SimRadio) (draws : List Draws)

-- The devices that report on a frame of this sender.
def reporters : List Eui64 :=
  (air.daemons.zipIdx.filter fun p => air.Reports sender p.1.radio (drawsAt draws p.2)).map (·.1.radio.eui)

variable {air sender draws}

-- The reply of one daemon, with its place.
def reply? (air : Air) (sender : SimRadio) (frame : List UInt8) (t : Float) (draws : List Draws) (p : SimDaemon × Nat) :
    Option (Nat × Message) :=
  (air.report? sender p.1.radio frame t (drawsAt draws p.2)).map fun m => (p.2, m)

theorem propagate_eq (frame : List UInt8) (t : Float) :
    air.propagate sender frame t draws = air.daemons.zipIdx.filterMap (air.reply? sender frame t draws) := rfl

theorem broadcast_propagate {bytes : List UInt8} {id : BlinkId} {subtype n : UInt8}
    (hdecode : Frame.decode bytes [] = .ok (Frame.numberedBeacon sender.eui id subtype n)) (t : Float) :
    Broadcast id sender.eui (air.reporters sender draws) (deliveries (air.propagate sender bytes t draws)) := by
  rw [reporters, propagate_eq]
  induction air.daemons.zipIdx with
  | nil => exact .nil id sender.eui
  | cons p rest ih =>
    by_cases hreports : air.Reports sender p.1.radio (drawsAt draws p.2)
    · obtain ⟨m, r, hm, hkind, hframe, hanchor, hsource, hlqi⟩ := exists_report hreports bytes t
      have hreply : air.reply? sender bytes t draws p = some (p.2, m) := by rw [reply?, hm, Option.map_some]
      have hcarried : m.delivery? = r.delivery? := by rcases hkind with rfl | rfl <;> rfl
      have hdelivery := hcarried.trans (TimestampReport.delivery?_of_beacon hdecode hframe)
      rw [List.filterMap_cons_some hreply, deliveries_cons hdelivery,
        List.filter_cons_of_pos (by simpa using hreports)]
      exact .cons rfl hsource (hanchor ▸ hlqi) hanchor ih
    · have hsilent : air.reply? sender bytes t draws p = none := by
        rw [reply?, report?_eq_none hreports, Option.map_none]
      rw [List.filterMap_cons_none hsilent, List.filter_cons_of_neg (by simpa using hreports)]
      exact ih

theorem mem_reporters_self {place : Nat} {d : SimDaemon} (hd : air.daemons[place]? = some d) (draws : List Draws) :
    d.radio.eui ∈ air.reporters d.radio draws := by
  have hmem : (d, place) ∈ air.daemons.zipIdx := List.mk_mem_zipIdx_iff_getElem?.mpr hd
  exact List.mem_map.mpr ⟨_, List.mem_filter.mpr ⟨hmem, decide_eq_true (.inl rfl)⟩, rfl⟩

-- Every device reports at most once.
theorem nodup_reporters (heuis : air.euis.Nodup) : (air.reporters sender draws).Nodup := by
  have heq : (air.daemons.zipIdx.map fun p => p.1.radio.eui) = air.euis := by
    have hfirst : (fun p : SimDaemon × Nat => p.1.radio.eui) = (·.radio.eui) ∘ Prod.fst := rfl
    rw [euis, hfirst, ← List.map_map, List.zipIdx_map_fst]
  exact (heq ▸ heuis).sublist (List.filter_sublist.map _)

-- The devices that hear a sender: the other ones on its channel, if nothing gets lost.
def hearers (air : Air) (sender : SimRadio) : List Eui64 :=
  (air.daemons.filter fun d => d.radio.eui ≠ sender.eui ∧ d.radio.config.channel = sender.config.channel ∧
    air.noise.lossRate ≤ 0.0).map (·.radio.eui)

theorem loses_eq_false_iff {noise : Noise} (hloss : noise.lossRate ≤ 0.0 ∨ noise.lossRate ≥ 1.0) (draws : Draws) :
    noise.loses draws = false ↔ noise.lossRate ≤ 0.0 := by
  unfold Noise.loses
  by_cases hnone : noise.lossRate ≤ 0.0
  · simp [hnone]
  · simp [hnone, hloss.resolve_left hnone]

-- Where nothing or everything gets lost, it does not depend on the random values who reports.
theorem mem_reporters_iff (hloss : air.noise.lossRate ≤ 0.0 ∨ air.noise.lossRate ≥ 1.0) {place : Nat} {d : SimDaemon}
    (hd : air.daemons[place]? = some d) (device : Eui64) :
    device ∈ air.reporters d.radio draws ↔ device = d.radio.eui ∨ device ∈ air.hearers d.radio := by
  constructor
  · intro hmem
    obtain ⟨⟨other, i⟩, hother, rfl⟩ := List.mem_map.mp hmem
    obtain ⟨hplace, hreports⟩ := List.mem_filter.mp hother
    rcases of_decide_eq_true hreports with hown | ⟨hchannel, hkept⟩
    · exact .inl hown
    · by_cases hown : other.radio.eui = d.radio.eui
      · exact .inl hown
      · refine .inr (List.mem_map.mpr ⟨other, List.mem_filter.mpr ⟨List.fst_mem_of_mem_zipIdx hplace, ?_⟩, rfl⟩)
        exact decide_eq_true ⟨hown, hchannel, (loses_eq_false_iff hloss _).mp hkept⟩
  · rintro (rfl | hmem)
    · exact mem_reporters_self hd draws
    · obtain ⟨other, hother, rfl⟩ := List.mem_map.mp hmem
      obtain ⟨hother, hheard⟩ := List.mem_filter.mp hother
      obtain ⟨-, hchannel, hkept⟩ := of_decide_eq_true hheard
      obtain ⟨i, hi⟩ := List.mem_iff_getElem?.mp hother
      have hplace : (other, i) ∈ air.daemons.zipIdx := List.mk_mem_zipIdx_iff_getElem?.mpr hi
      refine List.mem_map.mpr ⟨_, List.mem_filter.mpr ⟨hplace, decide_eq_true (.inr ⟨hchannel, ?_⟩)⟩, rfl⟩
      exact (loses_eq_false_iff hloss _).mpr hkept

theorem mem_propagate {reply : Nat × Message} {frame : List UInt8} {t : Float}
    (h : reply ∈ air.propagate sender frame t draws) :
    ∃ r, (reply.2 = .tx r ∨ reply.2 = .rx r) ∧ r.frame = Hex.encode frame := by
  rw [propagate_eq] at h
  obtain ⟨p, -, hp⟩ := List.mem_filterMap.mp h
  obtain ⟨m, hm, rfl⟩ := Option.map_eq_some_iff.mp hp
  by_cases hreports : air.Reports sender p.1.radio (drawsAt draws p.2)
  · obtain ⟨m', r, hm', hkind, hframe, -⟩ := exists_report hreports frame t
    cases hm.symm.trans hm'
    exact ⟨r, hkind, hframe⟩
  · rw [report?_eq_none hreports] at hm
    cases hm

theorem nodup_hearers (heuis : air.euis.Nodup) (sender : SimRadio) : (sender.eui :: air.hearers sender).Nodup := by
  refine List.nodup_cons.mpr ⟨fun hmem => ?_, heuis.sublist (List.filter_sublist.map _)⟩
  obtain ⟨d, hd, hown⟩ := List.mem_map.mp hmem
  exact (of_decide_eq_true (List.mem_filter.mp hd).2).1 hown

end Air

namespace Endpoint

variable {A : Type}

-- What reports do to the endpoint.
theorem dispatchAll_reports (e : Endpoint A) {replies : List (Nat × Message)}
    (h : ∀ reply ∈ replies, ∃ r, reply.2 = .tx r ∨ reply.2 = .rx r) :
    e.dispatchAll (replies.map fun reply => Text.encodeUtf8 reply.2.encode) =
      { e with table := e.table.deliverAll (deliveries replies) } := by
  induction replies generalizing e with
  | nil => rfl
  | cons reply replies ih =>
    obtain ⟨⟨r, hr⟩, hrest⟩ := List.forall_mem_cons.mp h
    have hcarried : reply.2.delivery? = r.delivery? := by rcases hr with hr | hr <;> rw [hr] <;> rfl
    have hdispatch := dispatch_report (e := e) (Message.reports_encode hr)
    have hfirst : e.dispatchAll ((reply :: replies).map fun reply => Text.encodeUtf8 reply.2.encode) =
        (e.dispatch (Text.encodeUtf8 reply.2.encode)).dispatchAll
          (replies.map fun reply => Text.encodeUtf8 reply.2.encode) := rfl
    rw [hfirst, ih _ hrest, hdispatch, ← hcarried]
    cases hdelivery : reply.2.delivery? with
    | none =>
      have hnone : deliveries (reply :: replies) = deliveries replies := List.filterMap_cons_none hdelivery
      rw [hnone, Option.elim_none]
    | some d =>
      rw [deliveries_cons hdelivery, Option.elim_some]
      rfl

end Endpoint

namespace Air

theorem euis_ofScene (scene : Scene) (speedOfLight : Float) :
    (ofScene scene speedOfLight).euis = scene.radios.map (·.eui) := by
  simp [ofScene, euis]

-- A daemon that has handled nothing yet numbers its frames from zero on.
theorem counter_run_ofScene {scene : Scene} {speedOfLight : Float} {history : List Arrival} {place : Nat} {d : SimDaemon}
    (hd : ((ofScene scene speedOfLight).run history).daemons[place]? = some d) :
    d.counter.next = UInt8.ofNat (Arrival.blinksAt place history) := by
  have hplace : ((ofScene scene speedOfLight).run history).euis[place]? = some d.radio.eui := by
    rw [euis, List.getElem?_map, hd, Option.map_some]
  rw [euis_run, euis_ofScene, List.getElem?_map] at hplace
  obtain ⟨r, hr, -⟩ := Option.map_eq_some_iff.mp hplace
  have hstart : (ofScene scene speedOfLight).daemons[place]? = some ⟨r, ⟨0⟩⟩ := by
    rw [ofScene, List.getElem?_map, hr, Option.map_some]
  rw [counter_run hstart hd]
  exact UInt8.zero_add _

-- In an air that has come to be as it is in any way, a daemon is asked for a blink in flight. Its reports, in whatever
-- order they come, file one record of the sender and one of every device that hears it, and nothing else. They
-- carry the same frame, under a number that counts the blinks that this daemon was asked for.
theorem transmission_recorded {A : Type} {scene : Scene} (heuis : (scene.radios.map (·.eui)).Nodup)
    (hloss : scene.noise.lossRate ≤ 0.0 ∨ scene.noise.lossRate ≥ 1.0) {speedOfLight : Float} {history : List Arrival}
    {air : Air} (hair : air = (ofScene scene speedOfLight).run history) {place : Nat} {d : SimDaemon}
    (hd : air.daemons[place]? = some d) {request : BeaconRequest} {id : BlinkId} (hid : request.blinkId = .ok id)
    (e : Endpoint A) {x : Exchange} (hx : e.table.find? id = some x) (t : Float) (draws : List Draws)
    {replies : List (Nat × Message)}
    (hreplies : replies.Perm (air.receive place (Text.encodeUtf8 (Message.beacon request).encode) t draws).1) :
    ∃ table x' bytes frame,
      e.dispatchAll (replies.map fun reply => Text.encodeUtf8 reply.2.encode) = { e with table := table } ∧
      table.find? id = some x' ∧ x.Gains d.radio.eui (air.hearers d.radio) x' ∧
      (∀ other, other ≠ id → table.find? other = e.table.find? other) ∧ table.ids = e.table.ids ∧
      table.next = e.table.next ∧
      (∀ reply ∈ replies, ∃ r, (reply.2 = .tx r ∨ reply.2 = .rx r) ∧ r.frame = Hex.encode bytes) ∧
      Frame.decode bytes [] = .ok frame ∧ frame.header.seq = some (UInt8.ofNat (Arrival.blinksAt place history)) := by
  obtain ⟨bytes, -, hdecode, htransmit⟩ := air.exists_transmit t draws hd hid
  rw [receive_encode, handle, hd] at hreplies
  simp only [htransmit] at hreplies
  have hnodup : air.euis.Nodup := by rwa [hair, euis_run, euis_ofScene]
  have hnoise : air.noise = scene.noise := by
    rw [hair, noise_run]
    rfl
  have hbroadcast : Broadcast id d.radio.eui (air.reporters d.radio draws) (deliveries replies) :=
    (broadcast_propagate hdecode t).perm (hreplies.filterMap _)
  have hreports : ∀ reply ∈ replies, ∃ r, (reply.2 = .tx r ∨ reply.2 = .rx r) ∧ r.frame = Hex.encode bytes :=
    fun reply hreply => mem_propagate (hreplies.mem_iff.mp hreply)
  have hdispatch := e.dispatchAll_reports fun reply hreply => (hreports reply hreply).imp fun _ => And.left
  have hgains := hbroadcast.gains (nodup_reporters hnodup)
    (fun device => by rw [mem_reporters_iff (hnoise ▸ hloss) hd, List.mem_cons]) (nodup_hearers hnodup d.radio) x
  refine ⟨_, _, bytes, _, hdispatch, ExchangeTable.find?_deliverAll hbroadcast.ids hx, hgains, fun other hne =>
    ExchangeTable.find?_deliverAll_of_ne hbroadcast.ids hne, ExchangeTable.ids_deliverAll _ _,
    ExchangeTable.next_deliverAll _ _, hreports, hdecode, ?_⟩
  rw [Frame.seq_numberedBeacon, counter_run_ofScene (hair ▸ hd)]

-- The request for a blink as it comes to a daemon.
def blinkRequest (place : Nat) (id : BlinkId) : Arrival :=
  ⟨place, Text.encodeUtf8 (Message.beacon (BeaconRequest.forBlink id)).encode, 0.0, []⟩

theorem receive_blinkRequest (d : SimDaemon) (place : Nat) (id : BlinkId) :
    d.receive (blinkRequest place id) = { d with counter := d.counter.draw.2 } := by
  have hid : (BeaconRequest.forBlink id).blinkId = .ok id := BeaconRequest.blinkId_of_reference rfl
  simp [SimDaemon.receive, blinkRequest, Message.decode_encode, SimDaemon.handle, hid, Except.isOk, Except.toBool]

theorem blink?_blinkRequest (place : Nat) (id : BlinkId) : (blinkRequest place id).blink? = some id := by
  have hid : (BeaconRequest.forBlink id).blinkId = .ok id := BeaconRequest.blinkId_of_reference rfl
  simp [Arrival.blink?, blinkRequest, Message.decode_encode, hid, Except.toOption]

-- Two radios on one channel.
def twoRadios : Scene :=
  ⟨[{ eui := ⟨1⟩, position := ⟨0.0, 0.0, 0.0⟩ }, { eui := ⟨2⟩, position := ⟨3.0, 0.0, 0.0⟩ }], {}⟩

-- The first daemon has blinked once, the second one too, and something unreadable has come in.
def busyHour : List Arrival := [blinkRequest 0 5, blinkRequest 1 6, ⟨0, [], 0.0, []⟩]

theorem daemons_busyHour : ((ofScene twoRadios 299792458.0).run busyHour).daemons =
    twoRadios.radios.map fun r => ⟨r, ⟨1⟩⟩ := by
  have hgarbage (d : SimDaemon) : d.receive ⟨0, [], 0.0, []⟩ = d := rfl
  simp only [busyHour, run, List.foldl_cons, List.foldl_nil, after_eq, receive_blinkRequest, hgarbage]
  rfl

-- The second blink of a daemon, reported in the reverse order.
theorem transmission_recorded_secondBlink :
    (twoRadios.radios.map (·.eui)).Nodup ∧ twoRadios.noise.lossRate ≤ 0.0 ∧
    (BeaconRequest.forBlink 7).blinkId = .ok 7 ∧ ExchangeTable.find? ⟨8, [⟨7, []⟩]⟩ 7 = some ⟨7, []⟩ ∧
    ∃ air d replies table x' bytes frame, air = (ofScene twoRadios 299792458.0).run busyHour ∧
      air.daemons[0]? = some d ∧ d.radio.eui = ⟨1⟩ ∧
      replies = (air.receive 0 (Text.encodeUtf8 (Message.beacon (BeaconRequest.forBlink 7)).encode) 1.0 []).1.reverse ∧
      Endpoint.dispatchAll (A := Unit) ⟨0, [], {}, 1, ⟨8, [⟨7, []⟩]⟩⟩
        (replies.map fun reply => Text.encodeUtf8 reply.2.encode) = ⟨0, [], {}, 1, table⟩ ∧
      table.find? 7 = some x' ∧ Exchange.Gains ⟨1⟩ [⟨2⟩] ⟨7, []⟩ x' ∧ Frame.decode bytes [] = .ok frame ∧
      frame.header.seq = some 1 := by
  have heuis : (twoRadios.radios.map (·.eui)).Nodup := by decide
  have hloss : twoRadios.noise.lossRate ≤ 0.0 := by decide
  have hid : (BeaconRequest.forBlink 7).blinkId = .ok 7 := BeaconRequest.blinkId_of_reference rfl
  have hx : ExchangeTable.find? ⟨8, [⟨7, []⟩]⟩ 7 = some ⟨7, []⟩ := rfl
  obtain ⟨air, hair⟩ : ∃ air, air = (ofScene twoRadios 299792458.0).run busyHour := ⟨_, rfl⟩
  have hdaemons : air.daemons = twoRadios.radios.map fun r => ⟨r, ⟨1⟩⟩ := by rw [hair, daemons_busyHour]
  have hd : air.daemons[0]? = some ⟨{ eui := ⟨1⟩, position := ⟨0.0, 0.0, 0.0⟩ }, ⟨1⟩⟩ := by
    rw [hdaemons]
    rfl
  have hcount : Arrival.blinksAt 0 busyHour = 1 := by
    have hgarbage : (⟨0, [], 0.0, []⟩ : Arrival).blink? = none := rfl
    have hplace (place : Nat) (id : BlinkId) : (blinkRequest place id).place = place := rfl
    simp [Arrival.blinksAt, busyHour, hplace, blink?_blinkRequest, hgarbage]
  have hhearers : air.hearers { eui := ⟨1⟩, position := ⟨0.0, 0.0, 0.0⟩ } = [⟨2⟩] := by
    have hnoise : air.noise = twoRadios.noise := by rw [hair, noise_run]; rfl
    rw [hearers, hdaemons, hnoise]
    decide
  obtain ⟨table, x', bytes, frame, hdispatch, hfound, hgains, -, -, -, -, hframe, hseq⟩ :=
    transmission_recorded heuis (.inl hloss) hair hd hid (⟨0, [], {}, 1, ⟨8, [⟨7, []⟩]⟩⟩ : Endpoint Unit) hx 1.0 []
      (List.reverse_perm _)
  rw [hcount] at hseq
  rw [hhearers] at hgains
  exact ⟨heuis, hloss, hid, hx, air, _, _, table, x', bytes, frame, hair, hd, rfl, rfl, hdispatch, hfound, hgains, hframe,
    hseq⟩

end Air

end UwbRanging
