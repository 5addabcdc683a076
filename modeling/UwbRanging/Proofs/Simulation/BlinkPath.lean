import UwbRanging.Proofs.Frame.RoundTrip
import UwbRanging.Proofs.Message.RoundTrip
import UwbRanging.Proofs.Transport.Dispatch
import UwbRanging.Simulation.Air

namespace UwbRanging

-- The reference that is asked for is the id again.
theorem BeaconRequest.blinkId_of_reference {request : BeaconRequest} {id : BlinkId}
    (h : request.beacon = (forBlink id).beacon) : request.blinkId = .ok id := by
  have hspan : id.toNat < LittleEndian.span 8 := id.toNat_lt
  have hlength : ¬ 8 < (LittleEndian.encode 8 id.toNat).reverse.length := by simp
  rw [blinkId, h, forBlink, Hex.decode_encode]
  simp only [hlength, if_false]
  rw [List.reverse_reverse, LittleEndian.decode_encode, Nat.mod_eq_of_lt hspan, UInt64.ofNat_toNat]

theorem Beacon.forBlink_subtype_lt (id : UInt64) (subtype : UInt8) : (forBlink id subtype).subtype < 16 :=
  Bits.and_nibble_lt subtype

theorem Header.broadcastFrom_wellFormed (src : Eui64) : (broadcastFrom src).WellFormed where
  security := rfl
  version := (by decide : (1 : UInt8) < 4)
  type := nofun
  dstPan := nofun
  compressed _ := rfl
  srcPan := nofun

namespace Frame

-- The beacon that a device sends for a blink, under its number.
def numberedBeacon (sender : Eui64) (id : BlinkId) (subtype n : UInt8) : Frame :=
  { beacon sender (Beacon.forBlink id subtype) with
    header := { Header.broadcastFrom sender with seq := some n } }

variable (sender : Eui64) (id : BlinkId) (subtype : UInt8)

@[simp] theorem blinkId_numberedBeacon (n : UInt8) : (numberedBeacon sender id subtype n).blinkId = some id := rfl

@[simp] theorem srcEui_numberedBeacon (n : UInt8) : (numberedBeacon sender id subtype n).header.srcEui = some sender :=
  rfl

@[simp] theorem seq_numberedBeacon (n : UInt8) : (numberedBeacon sender id subtype n).header.seq = some n := rfl

-- A beacon can be written for every id, and whoever receives it reads that id and its sender.
theorem exists_beacon (counter : SequenceCounter) :
    ∃ bytes, (beacon sender (Beacon.forBlink id subtype)).encode counter =
        ⟨.ok bytes, numberedBeacon sender id subtype counter.next, counter.draw.2⟩ ∧
      decode bytes [] = .ok (numberedBeacon sender id subtype counter.next) := by
  obtain ⟨sent, hsent⟩ : ∃ sent, sent = (numberedBeacon sender id subtype counter.next).header := ⟨_, rfl⟩
  have hwell : sent.WellFormed := hsent ▸ (Header.broadcastFrom_wellFormed sender).withSeq _
  have hheard : sent.heard = sent := by
    rw [hwell.heard_eq, hsent]
    rfl
  obtain ⟨body, hbody, hpayload⟩ :=
    (Payload.beacon (Beacon.forBlink id subtype)).decode_encode (Beacon.forBlink_subtype_lt id subtype)
  have hheader : Header.decode (sent.toWire ++ body) = .ok (sent, sent.toWire.length) := by
    have hrun := (Header.reads_toWire sent hwell.security).run body
    rwa [hheard] at hrun
  have hnumber : (Header.broadcastFrom sender).encode counter =
      ⟨.ok sent.toWire, sent.length, sent, counter.draw.2⟩ := by
    rw [Header.encode_of_not_security rfl, hsent]
    rfl
  refine ⟨sent.toWire ++ body, ?_, ?_⟩
  · have hhead : (beacon sender (Beacon.forBlink id subtype)).header = Header.broadcastFrom sender := rfl
    have hload : (beacon sender (Beacon.forBlink id subtype)).payload = .beacon (Beacon.forBlink id subtype) := rfl
    rw [encode, hhead, hload, hnumber, hbody, hsent]
    rfl
  · refine decode_eq_ok_iff.mpr ⟨sent.toWire.length, by rw [hheader, hsent], ?_, rfl⟩
    rw [List.drop_left, hpayload]
    rfl

end Frame

namespace TimestampReport

variable {r : TimestampReport} {bytes : List UInt8}

-- Below 96 bits the time of a report is the record's.
theorem value_hires (h : r.hires.toNat < 2 ^ 96) : r.timestamp.hires.value = r.hires.toNat := by
  rw [timestamp, Hires.value_ofValue, Nat.mod_eq_of_lt h]

-- A report on a beacon is the record of its device on the blink that the beacon names.
theorem delivery?_of_beacon {sender : Eui64} {id : BlinkId} {subtype n : UInt8}
    (hdecode : Frame.decode bytes [] = .ok (Frame.numberedBeacon sender id subtype n))
    (hframe : r.frame = Hex.encode bytes) :
    r.delivery? = some ⟨id, { device := r.anchor, source := r.src.or (some sender), timestamp := r.timestamp }⟩ := by
  rw [delivery?_of_frame (by rw [hframe, Hex.decode_encode]) hdecode, Frame.blinkId_numberedBeacon,
    Frame.srcEui_numberedBeacon, Option.map_some]

end TimestampReport

namespace Air

variable (air : Air) {index : Nat} {d : SimDaemon} (t : Float) (draws : List Draws)

-- The numbers of the daemons' frames do not show in what they report.
theorem propagate_setDaemon (hd : air.daemons[index]? = some d) (counter : SequenceCounter) (sender : SimRadio)
    (frame : List UInt8) :
    (air.setDaemon index { d with counter := counter }).propagate sender frame t draws =
      air.propagate sender frame t draws := by
  have hradios : (air.daemons.set index { d with counter := counter }).map (·.radio) = air.daemons.map (·.radio) := by
    refine List.ext_getElem? fun i => ?_
    obtain ⟨hindex, rfl⟩ := List.getElem?_eq_some_iff.mp hd
    by_cases hi : index = i
    · subst hi
      simp [hindex]
    · simp [hi]
  have hreply (daemons : List SimDaemon) :
      (daemons.zipIdx.filterMap fun p =>
        (air.report? sender p.1.radio frame t (drawsAt draws p.2)).map fun m => (p.2, m)) =
      (daemons.map (·.radio)).zipIdx.filterMap fun p =>
        (air.report? sender p.1 frame t (drawsAt draws p.2)).map fun m => (p.2, m) := by
    rw [List.zipIdx_map, List.filterMap_map]
    rfl
  exact (hreply _).trans (hradios ▸ (hreply _).symm)

-- A daemon that is asked for a blink sends its beacon under its next number.
theorem exists_transmit (hd : air.daemons[index]? = some d) {request : BeaconRequest} {id : BlinkId}
    (hid : request.blinkId = .ok id) :
    ∃ bytes, (Frame.beacon d.radio.eui (Beacon.forBlink id request.subtype)).encode d.counter =
        ⟨.ok bytes, Frame.numberedBeacon d.radio.eui id request.subtype d.counter.next, d.counter.draw.2⟩ ∧
      Frame.decode bytes [] = .ok (Frame.numberedBeacon d.radio.eui id request.subtype d.counter.next) ∧
      air.transmit index d request t draws =
        (air.propagate d.radio bytes t draws, air.setDaemon index { d with counter := d.counter.draw.2 }) := by
  obtain ⟨bytes, hencode, hdecode⟩ := Frame.exists_beacon d.radio.eui id request.subtype d.counter
  refine ⟨bytes, hencode, hdecode, ?_⟩
  rw [transmit, hid]
  simp only [hencode]
  rw [propagate_setDaemon air t draws hd]

theorem receive_encode (m : Message) (index : Nat) :
    air.receive index (Text.encodeUtf8 m.encode) t draws = air.handle index m t draws := by
  rw [receive, m.decode_encode]

end Air

-- A report as it travels.
theorem Message.reports_encode {m : Message} {r : TimestampReport} (hm : m = .tx r ∨ m = .rx r) :
    Message.Reports (Text.encodeUtf8 m.encode) r := by
  rcases hm with rfl | rfl
  · exact .inl (Message.decode_encode _)
  · exact .inr (Message.decode_encode _)

namespace Endpoint

variable {A : Type}

-- The id of a blink in flight, from the request over the frame and the reports on it back to the exchange of that
-- blink. The record is that of the reporting device, with its source or else the sender's address, and with its
-- clocks and diagnostics as they are.
theorem blink_id_survives (e : Endpoint A) {id : BlinkId} (hlive : e.table.isLive id = true) {request : BeaconRequest}
    (hrequest : request.beacon = (BeaconRequest.forBlink id).beacon) {air : Air} {index : Nat} {d : SimDaemon}
    (hd : air.daemons[index]? = some d) (t : Float) (draws : List Draws) :
    request.blinkId = .ok id ∧
    ∃ bytes frame,
      ((Frame.beacon d.radio.eui (Beacon.forBlink id request.subtype)).encode d.counter).outcome = .ok bytes ∧
      air.receive index (Text.encodeUtf8 (Message.beacon request).encode) t draws =
        (air.propagate d.radio bytes t draws, air.setDaemon index { d with counter := d.counter.draw.2 }) ∧
      Frame.decode bytes [] = .ok frame ∧ frame.blinkId = some id ∧ frame.header.srcEui = some d.radio.eui ∧
      ∀ (r : TimestampReport) (m : Message), r.frame = Hex.encode bytes → m = .tx r ∨ m = .rx r →
        r.frameBytes = .ok bytes ∧
        ∃ table record, e.dispatch (Text.encodeUtf8 m.encode) = { e with table := table } ∧
          e.table.Files ⟨id, record⟩ table ∧ record.device = r.anchor ∧ record.source = r.src.or (some d.radio.eui) ∧
          record.timestamp = r.timestamp ∧ record.timestamp.info = r.info ∧
          (r.hires.toNat < 2 ^ 96 → record.timestamp.hires.value = r.hires.toNat) := by
  have hid := BeaconRequest.blinkId_of_reference hrequest
  obtain ⟨bytes, hencode, hdecode, htransmit⟩ := air.exists_transmit t draws hd hid
  have hreceive : air.receive index (Text.encodeUtf8 (Message.beacon request).encode) t draws =
      air.transmit index d request t draws := by
    rw [Air.receive_encode, Air.handle, hd]
  refine ⟨hid, bytes, _, by rw [hencode], hreceive.trans htransmit, hdecode, rfl, rfl, fun r m hframe hm => ?_⟩
  have hhex : Hex.decode r.frame = .ok bytes := by rw [hframe, Hex.decode_encode]
  have hcarries := TimestampReport.carries_of_delivery? (TimestampReport.delivery?_of_beacon hdecode hframe)
  have hdispatch := dispatch_delivery (e := e) (Message.reports_encode hm) hcarries
  exact ⟨TimestampReport.frameBytes_of_ok hhex, _, _, hdispatch, ExchangeTable.files_deliver hlive, rfl, rfl, rfl, rfl,
    TimestampReport.value_hires⟩

-- A daemon that has come to the last of its numbers.
def loneDaemon : SimDaemon := ⟨{ eui := ⟨0x70b3d5b1e0000001⟩, position := ⟨0.0, 0.0, 0.0⟩ }, ⟨255⟩⟩

-- An id of eight different bytes, and a subtype of more than four bits.
theorem blink_id_survives_unevenId :
    ExchangeTable.isLive ⟨1, [⟨0x0123456789abcdef, []⟩]⟩ 0x0123456789abcdef = true ∧
    (⟨"0123456789abcdef", 0xf9⟩ : BeaconRequest).beacon = (BeaconRequest.forBlink 0x0123456789abcdef).beacon ∧
    [loneDaemon][0]? = some loneDaemon ∧
    (⟨"0123456789abcdef", 0xf9⟩ : BeaconRequest).blinkId = .ok 0x0123456789abcdef ∧
    ∃ bytes frame, ((Frame.beacon ⟨0x70b3d5b1e0000001⟩ (Beacon.forBlink 0x0123456789abcdef 0xf9)).encode ⟨255⟩).outcome =
      .ok bytes ∧ Frame.decode bytes [] = .ok frame ∧ frame.blinkId = some 0x0123456789abcdef := by
  have hlive : ExchangeTable.isLive ⟨1, [⟨0x0123456789abcdef, []⟩]⟩ 0x0123456789abcdef = true := by decide
  have hrequest : (⟨"0123456789abcdef", 0xf9⟩ : BeaconRequest).beacon =
      (BeaconRequest.forBlink 0x0123456789abcdef).beacon := by decide
  have hd : (⟨[loneDaemon], {}, 299792458.0⟩ : Air).daemons[0]? = some loneDaemon := rfl
  obtain ⟨hid, bytes, frame, hbytes, -, hframe, hblink, -⟩ :=
    blink_id_survives (A := Unit) ⟨0, [], {}, 1, ⟨1, [⟨0x0123456789abcdef, []⟩]⟩⟩ hlive hrequest hd 0.0 []
  exact ⟨hlive, hrequest, hd, hid, bytes, frame, hbytes, hframe, hblink⟩

end Endpoint

end UwbRanging
