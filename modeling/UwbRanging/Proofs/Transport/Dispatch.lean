import UwbRanging.Proofs.Exchange.Refinement
import UwbRanging.Proofs.Frame.Canonical
import UwbRanging.Proofs.Message.Missing
import UwbRanging.Proofs.Text.Hex
import UwbRanging.Proofs.Transport.Pending
import UwbRanging.Transport.Endpoint

namespace UwbRanging

namespace BigEndian

-- The number that bytes, most significant first, stand for.
def decode (bytes : List UInt8) : Nat := bytes.foldl (fun n byte => 256 * n + byte.toNat) 0

theorem decode_reverse (bytes : List UInt8) : decode bytes.reverse = LittleEndian.decode bytes := by
  rw [decode, List.foldl_reverse]
  induction bytes with
  | nil => rfl
  | cons byte rest ih => rw [List.foldr_cons, ih, LittleEndian.decode, Nat.add_comm]

end BigEndian

theorem Frame.decode_eq_ok_iff {bytes : List UInt8} {ancillary : List ControlMessage} {f : Frame} :
    decode bytes ancillary = .ok f ↔ ∃ length, Header.decode bytes = .ok (f.header, length) ∧
      Payload.decode (bytes.drop length) = .ok f.payload ∧ f.timestamp = HardwareTimestamp.ofAncillary ancillary := by
  unfold decode
  cases hheader : Header.decode bytes with
  | error e => simp [bind, Except.bind]
  | ok head =>
    obtain ⟨header, length⟩ := head
    cases hpayload : Payload.decode (bytes.drop length) with
    | error e => simp [bind, Except.bind, hpayload]
    | ok payload =>
      obtain ⟨header', payload', timestamp'⟩ := f
      simp only [bind, Except.bind, hpayload, pure, Except.pure, Except.ok.injEq, Frame.mk.injEq, Prod.mk.injEq]
      constructor
      · rintro ⟨rfl, rfl, rfl⟩
        exact ⟨length, ⟨rfl, rfl⟩, hpayload, rfl⟩
      · rintro ⟨length', ⟨rfl, rfl⟩, hpayload', rfl⟩
        rw [hpayload] at hpayload'
        exact ⟨rfl, Except.ok.inj hpayload', rfl⟩

theorem Frame.blinkId_eq_some_iff {f : Frame} {id : UInt64} :
    f.blinkId = some id ↔ ∃ b, f.payload = .beacon b ∧ b.reference = id := by
  unfold blinkId
  cases f.payload <;> simp

-- Every bit of a beacon is kept, so that its bytes are those that it is written as.
theorem Payload.exists_eq_of_beacon {bytes : List UInt8} {b : Beacon} (h : decode bytes = .ok (.beacon b)) :
    ∃ rest, bytes = tagged .beacon b.subtype b.encodeBody ++ rest := by
  have hhead : bytes.head? = some magic1 := by
    by_contra hhead
    have hnone := (encode_eq_of_head h hhead).1
    cases hnone
  obtain ⟨rest, rfl⟩ := List.head?_eq_some_iff.mp hhead
  obtain ⟨length, -, -, hrestores⟩ := exists_restores h
  obtain ⟨canonical, hencode, -, hsame⟩ := hrestores.written
  cases hencode
  have heq := (hsame nofun).eq_of_busy (fun _ _ => id)
  exact ⟨(magic1 :: rest).drop length, by rw [← heq, List.take_append_drop]⟩

-- A beacon's reference follows magic byte, type byte and flags. It is sent in reverse.
theorem Payload.reference_toNat {bytes : List UInt8} {b : Beacon} (h : decode bytes = .ok (.beacon b)) :
    b.reference.toNat = BigEndian.decode ((bytes.drop 3).take 8).reverse := by
  obtain ⟨rest, rfl⟩ := exists_eq_of_beacon h
  have hbytes : ((tagged .beacon b.subtype b.encodeBody ++ rest).drop 3).take 8 =
      LittleEndian.encode 8 b.reference.toNat := rfl
  have hspan : b.reference.toNat < LittleEndian.span 8 := b.reference.toNat_lt
  rw [hbytes, BigEndian.decode_reverse, LittleEndian.decode_encode, Nat.mod_eq_of_lt hspan]

namespace TimestampReport

-- What a report tells: its frame is the hexadecimal form of a beacon frame, in which the id of the blink follows
-- MAC header and three more bytes, and the record is that of the reporting device.
def Carries (r : TimestampReport) (d : Delivery) : Prop :=
  ∃ bytes frame b length, Hex.decode r.frame = .ok bytes ∧ Frame.decode bytes [] = .ok frame ∧
    frame.payload = .beacon b ∧ Header.decode bytes = .ok (frame.header, length) ∧
    d.id.toNat = BigEndian.decode ((bytes.drop (length + 3)).take 8).reverse ∧
    d.record = { device := r.anchor, source := r.src.or frame.header.srcEui, timestamp := r.timestamp }

variable {r : TimestampReport}

theorem frameBytes_of_ok {bytes : List UInt8} (h : Hex.decode r.frame = .ok bytes) : r.frameBytes = .ok bytes := by
  rw [frameBytes, h]

theorem delivery?_of_bad_hex {fault : Hex.Fault} (h : Hex.decode r.frame = .error fault) : r.delivery? = none := by
  rw [delivery?, frameBytes, h]
  rfl

theorem delivery?_of_bad_frame {bytes : List UInt8} {error : FrameError} (hhex : Hex.decode r.frame = .ok bytes)
    (hframe : Frame.decode bytes [] = .error error) : r.delivery? = none := by
  rw [delivery?, frameBytes_of_ok hhex]
  simp [Except.toOption, hframe]

theorem delivery?_of_frame {bytes : List UInt8} {frame : Frame} (hhex : Hex.decode r.frame = .ok bytes)
    (hframe : Frame.decode bytes [] = .ok frame) : r.delivery? = frame.blinkId.map fun id =>
      ⟨id, { device := r.anchor, source := r.src.or frame.header.srcEui, timestamp := r.timestamp }⟩ := by
  rw [delivery?, frameBytes_of_ok hhex]
  simp [Except.toOption, hframe, Option.map_eq_bind]

theorem carries_of_delivery? {d : Delivery} (h : r.delivery? = some d) : r.Carries d := by
  cases hhex : Hex.decode r.frame with
  | error fault => rw [delivery?_of_bad_hex hhex] at h; cases h
  | ok bytes =>
    cases hframe : Frame.decode bytes [] with
    | error error => rw [delivery?_of_bad_frame hhex hframe] at h; cases h
    | ok frame =>
      rw [delivery?_of_frame hhex hframe] at h
      obtain ⟨id, hid, rfl⟩ := Option.map_eq_some_iff.mp h
      obtain ⟨b, hb, rfl⟩ := Frame.blinkId_eq_some_iff.mp hid
      obtain ⟨length, hheader, hpayload, -⟩ := Frame.decode_eq_ok_iff.mp hframe
      have hreference := Payload.reference_toNat (hb ▸ hpayload)
      rw [List.drop_drop] at hreference
      exact ⟨bytes, frame, b, length, hhex, hframe, hb, hheader, hreference, rfl⟩

theorem Carries.delivery?_eq {d : Delivery} (h : r.Carries d) : r.delivery? = some d := by
  obtain ⟨bytes, frame, b, length, hhex, hframe, hb, hheader, hid, hrecord⟩ := h
  obtain ⟨length', hheader', hpayload, -⟩ := Frame.decode_eq_ok_iff.mp hframe
  obtain rfl : length' = length := (Prod.mk.inj (Except.ok.inj (hheader'.symm.trans hheader))).2
  have hreference := Payload.reference_toNat (hb ▸ hpayload)
  rw [List.drop_drop, ← hid] at hreference
  have hblink : frame.blinkId = some d.id :=
    Frame.blinkId_eq_some_iff.mpr ⟨b, hb, UInt64.toNat_inj.mp hreference⟩
  rw [delivery?_of_frame hhex hframe, hblink, Option.map_some, ← hrecord]

-- Anything that keeps a report from telling of a blink.
inductive Silent (r : TimestampReport) : Prop where
  | oddHex (h : r.frame.toUTF8.toList.length % 2 = 1)
  | foreignDigit (digit : UInt8) (hmem : digit ∈ r.frame.toUTF8.toList) (h : Hex.digitValue? digit = none)
  | badFrame (bytes : List UInt8) (error : FrameError) (hhex : Hex.decode r.frame = .ok bytes)
      (h : Frame.decode bytes [] = .error error)
  | noBeacon (bytes : List UInt8) (frame : Frame) (hhex : Hex.decode r.frame = .ok bytes)
      (hframe : Frame.decode bytes [] = .ok frame) (h : ∀ b, frame.payload ≠ .beacon b)

theorem Silent.delivery?_eq (h : r.Silent) : r.delivery? = none := by
  cases h with
  | oddHex h =>
    obtain ⟨fault, hhex⟩ := Hex.exists_error (.inl h)
    exact delivery?_of_bad_hex hhex
  | foreignDigit digit hmem h =>
    obtain ⟨fault, hhex⟩ := Hex.exists_error (.inr ⟨digit, hmem, h⟩)
    exact delivery?_of_bad_hex hhex
  | badFrame bytes error hhex h => exact delivery?_of_bad_frame hhex h
  | noBeacon bytes frame hhex hframe h =>
    have hblink : frame.blinkId = none := by
      by_contra hsome
      obtain ⟨id, hid⟩ := Option.ne_none_iff_exists'.mp hsome
      obtain ⟨b, hb, -⟩ := Frame.blinkId_eq_some_iff.mp hid
      exact h b hb
    rw [delivery?_of_frame hhex hframe, hblink, Option.map_none]

end TimestampReport

namespace ExchangeTable

variable {t : ExchangeTable} {d : Delivery}

-- A record is filed: in the exchange of its blink, which is in flight, it takes the place of what its device has
-- reported before, and that is all.
structure Files (t : ExchangeTable) (d : Delivery) (t' : ExchangeTable) : Prop where
  live : t.isLive d.id = true
  record : ∀ x, t.find? d.id = some x → ∃ x', t'.find? d.id = some x' ∧
    ∀ device, x'.get? device = if d.record.device = device then some d.record else x.get? device
  others : ∀ id, id ≠ d.id → t'.find? id = t.find? id
  ids : t'.ids = t.ids
  next : t'.next = t.next

theorem files_deliver (h : t.isLive d.id = true) : t.Files d (t.deliver d) where
  live := h
  record x hx := by
    refine ⟨x.report d.record, ?_, fun device => x.get?_report d.record device⟩
    rw [deliver, find?_report, hx, Option.map_some, if_pos rfl]
  others id hne := by
    rw [deliver, find?_report]
    simp [Ne.symm hne]
  ids := t.ids_deliver d
  next := t.next_deliver d

theorem deliver_of_not_isLive (h : t.isLive d.id = false) : t.deliver d = t := by
  apply deliver_of_notMem
  simp [mem_ids_iff, h]

end ExchangeTable

namespace PendingCalls

variable {p : PendingCalls} {reply : RpcCall}

-- A reply is taken in: it fills the empty place under its number, and that is all.
structure Answers (p : PendingCalls) (reply : RpcCall) (p' : PendingCalls) : Prop where
  empty : p.slot? reply.seqn = some none
  filled : p'.slot? reply.seqn = some (some reply)
  others : ∀ seqn, seqn ≠ reply.seqn → p'.slot? seqn = p.slot? seqn

theorem answers_complete (h : p.slot? reply.seqn = some none) : p.Answers reply (p.complete reply).2 where
  empty := h
  filled := by simp [slot?_complete, h]
  others seqn hne := by simp [slot?_complete, hne]

end PendingCalls

-- The datagram is a report, on a frame that was sent or heard.
def Message.Reports (datagram : List UInt8) (r : TimestampReport) : Prop :=
  decode datagram = .ok (.tx r) ∨ decode datagram = .ok (.rx r)

namespace Endpoint

variable {A : Type} {e : Endpoint A} {datagram : List UInt8}

theorem dispatch_of_error {error : TransportError} (h : Message.decode datagram = .error error) :
    e.dispatch datagram = e := by
  rw [dispatch, h]

theorem dispatch_request {request : BeaconRequest} (h : Message.decode datagram = .ok (.beacon request)) :
    e.dispatch datagram = e := by
  rw [dispatch, h]
  rfl

theorem dispatch_report {r : TimestampReport} (h : Message.Reports datagram r) :
    e.dispatch datagram = r.delivery?.elim e fun d => { e with table := e.table.deliver d } := by
  rcases h with h | h <;> rw [dispatch, h] <;> rfl

theorem dispatch_delivery {r : TimestampReport} {d : Delivery} (h : Message.Reports datagram r) (hr : r.Carries d) :
    e.dispatch datagram = { e with table := e.table.deliver d } := by
  rw [dispatch_report h, hr.delivery?_eq, Option.elim_some]

theorem dispatch_unknownBlink {r : TimestampReport} {d : Delivery} (h : Message.Reports datagram r) (hr : r.Carries d)
    (hdead : e.table.isLive d.id = false) : e.dispatch datagram = e := by
  rw [dispatch_delivery h hr, ExchangeTable.deliver_of_not_isLive hdead]

theorem dispatch_reply {reply : RpcCall} (h : Message.decode datagram = .ok (.rpc reply)) :
    e.dispatch datagram = { e with pending := (e.pending.complete reply).2 } := by
  rw [dispatch, h]
  rfl

theorem dispatch_unwanted {reply : RpcCall} (h : Message.decode datagram = .ok (.rpc reply))
    (hslot : e.pending.slot? reply.seqn ≠ some none) : e.dispatch datagram = e := by
  rw [dispatch_reply h, PendingCalls.complete_of_not_empty hslot]

-- What a datagram does: nothing, or one thing.
inductive Effect (datagram : List UInt8) (e e' : Endpoint A) : Prop where
  | none (h : e' = e)
  | filed (r : TimestampReport) (d : Delivery) (hmessage : Message.Reports datagram r) (hr : r.Carries d)
      (hfiles : e.table.Files d e'.table) (hrest : e' = { e with table := e'.table })
  | answered (reply : RpcCall) (hmessage : Message.decode datagram = .ok (.rpc reply))
      (hanswers : e.pending.Answers reply e'.pending) (hrest : e' = { e with pending := e'.pending })

theorem effect_report {r : TimestampReport} (h : Message.Reports datagram r) :
    Effect datagram e (e.dispatch datagram) := by
  cases hdelivery : r.delivery? with
  | none =>
    refine .none ?_
    rw [dispatch_report h, hdelivery, Option.elim_none]
  | some d =>
    have hr := TimestampReport.carries_of_delivery? hdelivery
    by_cases hlive : e.table.isLive d.id = true
    · rw [dispatch_delivery h hr]
      exact .filed r d h hr (ExchangeTable.files_deliver hlive) rfl
    · exact .none (dispatch_unknownBlink h hr (Bool.eq_false_iff.mpr hlive))

theorem effect_reply {reply : RpcCall} (h : Message.decode datagram = .ok (.rpc reply)) :
    Effect datagram e (e.dispatch datagram) := by
  by_cases hslot : e.pending.slot? reply.seqn = some none
  · rw [dispatch_reply h]
    exact .answered reply h (PendingCalls.answers_complete hslot) rfl
  · exact .none (dispatch_unwanted h hslot)

variable (e datagram)

-- One case for each kind of message.
theorem effect_dispatch : Effect datagram e (e.dispatch datagram) := by
  cases h : Message.decode datagram with
  | error error => exact .none (dispatch_of_error h)
  | ok m =>
    cases m with
    | beacon request => exact .none (dispatch_request h)
    | rpc reply => exact effect_reply h
    | tx r => exact effect_report (.inl h)
    | rx r => exact effect_report (.inr h)

-- A datagram has at most one effect, and one that is of no use has none.
structure OneEffect (e : Endpoint A) (datagram : List UInt8) : Prop where
  effect : Effect datagram e (e.dispatch datagram)
  single : (e.dispatch datagram).table = e.table ∨ (e.dispatch datagram).pending = e.pending
  -- a report on a blink in flight is filed, and the first reply to a call is taken in
  filed : ∀ r d, Message.Reports datagram r → r.Carries d → e.table.isLive d.id = true →
    e.table.Files d (e.dispatch datagram).table
  answered : ∀ reply, Message.decode datagram = .ok (.rpc reply) → e.pending.slot? reply.seqn = some none →
    e.pending.Answers reply (e.dispatch datagram).pending
  -- all else changes nothing
  unreadable : ∀ error, Message.decode datagram = .error error → e.dispatch datagram = e
  noJson : Json.parse datagram = none → e.dispatch datagram = e
  unknownType : ∀ j type, Json.parse datagram = some j → Message.type? j = some type →
    type ∉ ["BEACON", "RPC", "TX", "RX"] → e.dispatch datagram = e
  incomplete : ∀ j, Json.parse datagram = some j → Message.Incomplete j → e.dispatch datagram = e
  request : ∀ r, Message.decode datagram = .ok (.beacon r) → e.dispatch datagram = e
  silent : ∀ r, Message.Reports datagram r → r.Silent → e.dispatch datagram = e
  unknownBlink : ∀ r d, Message.Reports datagram r → r.Carries d → e.table.isLive d.id = false →
    e.dispatch datagram = e
  purgedBlink : ∀ r d, Message.Reports datagram r → r.Carries d →
    { e with table := e.table.purge d.id }.dispatch datagram = { e with table := e.table.purge d.id }
  unknownCall : ∀ reply, Message.decode datagram = .ok (.rpc reply) → e.pending.isPending reply.seqn = false →
    e.dispatch datagram = e
  answeredCall : ∀ reply first, Message.decode datagram = .ok (.rpc reply) →
    e.pending.reply? reply.seqn = some first → e.dispatch datagram = e

theorem dispatch_oneEffect : OneEffect e datagram where
  effect := effect_dispatch e datagram
  single := by
    cases effect_dispatch e datagram with
    | none h => exact .inl (congrArg table h)
    | filed r d hmessage hr hfiles hrest => exact .inr (by rw [hrest])
    | answered reply hmessage hanswers hrest => exact .inl (by rw [hrest])
  filed r d hmessage hr hlive := by
    rw [dispatch_delivery hmessage hr]
    exact ExchangeTable.files_deliver hlive
  answered reply hmessage hslot := by
    rw [dispatch_reply hmessage]
    exact PendingCalls.answers_complete hslot
  unreadable error := dispatch_of_error
  noJson h := dispatch_of_error (by rw [Message.decode, h])
  unknownType j type hj htype hunknown :=
    dispatch_of_error (by rw [Message.decode, hj]; exact Message.ofJson_of_unknown htype hunknown)
  incomplete j hj h := dispatch_of_error (by rw [Message.decode, hj]; exact h.ofJson_eq)
  request r := dispatch_request
  silent r hmessage h := by rw [dispatch_report hmessage, h.delivery?_eq, Option.elim_none]
  unknownBlink r d := dispatch_unknownBlink
  purgedBlink r d hmessage hr := by
    refine dispatch_unknownBlink hmessage hr ?_
    rw [ExchangeTable.isLive, ExchangeTable.find?_purge_self]
    rfl
  unknownCall reply hmessage h := by
    refine dispatch_unwanted hmessage fun hslot => ?_
    rw [PendingCalls.isPending_eq, hslot] at h
    cases h
  answeredCall reply first hmessage h := by
    refine dispatch_unwanted hmessage fun hslot => ?_
    rw [PendingCalls.reply?_eq, hslot] at h
    cases h

end Endpoint

end UwbRanging
