import UwbRanging.Frame.Basic
import UwbRanging.Proofs.Frame.Payload
import UwbRanging.Proofs.Wire.Foretells

namespace UwbRanging

theorem Steady.countedTimes {α : Type} {step : Reader α} (hstep : Steady step) :
    Steady (do Reader.times step (← Reader.u8).toNat) :=
  Steady.u8.bind fun count => hstep.times count.toNat

namespace Header

theorem steady_address : ∀ long, Steady (readAddress long)
  | false => Steady.u16.map Address.short
  | true => (Steady.bytes 8).map fun data => Address.extended (Eui64.ofWire data)

theorem steady_field : ∀ mode, Steady (readField mode)
  | .absent => Steady.pure none
  | .short => (steady_address false).map some
  | .extended => (steady_address true).map some

theorem steady_dst : ∀ mode, Steady (readDst mode)
  | .absent => Steady.pure _
  | .short => Steady.u16.map₂ (steady_field .short) Prod.mk
  | .extended => Steady.u16.map₂ (steady_field .extended) Prod.mk

theorem steady_src (mode : AddressMode) (compressed : Bool) (dstPan : UInt16) :
    Steady (readSrc mode compressed dstPan) := by
  cases mode <;> cases compressed
  case absent.false => exact Steady.pure _
  case absent.true => exact Steady.pure _
  case short.false => exact Steady.u16.map₂ (steady_field .short) Prod.mk
  case short.true => exact (steady_field .short).map (Prod.mk dstPan)
  case extended.false => exact Steady.u16.map₂ (steady_field .extended) Prod.mk
  case extended.true => exact (steady_field .extended).map (Prod.mk dstPan)

-- A header that has security is refused behind its number, however much of it is there.
theorem steady_read : Steady read := by
  refine Steady.u16.bind fun control => Steady.u8.bind fun seq => ?_
  dsimp only
  split
  · exact (Steady.unsupported _).bind fun _ => (steady_dst _).bind fun dst => (steady_src _ _ _).map _
  · exact (steady_dst _).bind fun dst => (steady_src _ _ _).map _

end Header

theorem Element.steady_value : ∀ width, Steady (readValue width)
  | .u8 => Steady.u8.map fun v => ElementValue.int v.toUInt32
  | .u16 => Steady.u16.map fun v => ElementValue.int v.toUInt32
  | .u32 => Steady.u32.map ElementValue.int
  | .variable => Steady.counted.map ElementValue.bytes

theorem Element.steady_read : Steady read :=
  Steady.u8.bind fun id => (steady_value (Width.ofId id)).map (Element.mk id)

theorem Blink.steady_readBody (subtype : UInt8) : Steady (readBody subtype) := by
  refine Steady.u8.bind fun flags => (Steady.when _ (Steady.octets 16)).bind fun cookie => ?_
  refine (Steady.when _ Element.steady_read.countedTimes).bind fun elements => ?_
  dsimp only
  split
  · exact (Steady.unsupported _).bind fun _ => Steady.pure _
  · exact Steady.pure _

theorem Beacon.steady_readBody (subtype : UInt8) : Steady (readBody subtype) :=
  Steady.u8.map₂ (Steady.nat 8) fun flags n => Beacon.mk subtype flags (UInt64.ofNat n)

theorem RangingResponse.steady_readPeers : Steady readPeers :=
  LongMask.steady_decode.bind (Steady.each fun long => (Header.steady_address long).map₂ Steady.u40 Prod.mk)

theorem RangingResponse.steady_readBody (subtype : UInt8) : Steady (readBody subtype) :=
  Steady.u40.map₂ (Steady.when _ steady_readPeers) RangingResponse.mk

namespace Setting

theorem steady_readKeys : Steady readKeys := Steady.u16.countedTimes

theorem steady_read : Steady read := Steady.u16.map₂ Steady.counted Setting.mk

theorem steady_readAll : Steady readAll := steady_read.countedTimes

end Setting

theorem SettingsRequest.steady_readBody (subtype : UInt8) : Steady (readBody subtype) := by
  unfold readBody
  split
  · exact Steady.u16.map reset
  · exact Steady.u16.map enumerate
  · exact Setting.steady_readKeys.map read
  · exact Setting.steady_readAll.map write
  · exact Setting.steady_readKeys.map delete
  · exact (Steady.octets 16).map salt
  · exact Steady.counted.map test
  · exact Steady.unsupported _

theorem SettingsResponse.steady_readBody (subtype : UInt8) : Steady (readBody subtype) := by
  unfold readBody
  split
  · exact Steady.u16.map reset
  · exact Steady.u16.map₂ Setting.steady_readKeys enumerate
  · exact Setting.steady_readAll.map read
  · exact Steady.u8.map write
  · exact Steady.u8.map delete
  · exact (Steady.octets 16).map salt
  · exact Steady.counted.map test
  · exact Steady.unsupported _

theorem RxInfo.steady_read : Steady read :=
  Steady.u16.bind fun first => Steady.u16.bind fun second => Steady.u16.map₂ Steady.u16 (RxInfo.mk first second)

theorem TimingEntry.steady_read (withTime withInfo long : Bool) : Steady (read withTime withInfo long) :=
  (Header.steady_address long).bind fun addr =>
    (Steady.when withTime Steady.u40).map₂ (Steady.when withInfo RxInfo.steady_read) (TimingEntry.mk addr)

theorem TimingReport.steady_readEntries (withTime withInfo : Bool) : Steady (readEntries withTime withInfo) := by
  unfold readEntries
  split
  · exact LongMask.steady_decode.bind (Steady.each (TimingEntry.steady_read withTime withInfo))
  · exact Steady.pure []

theorem TimingReport.steady_readBody (subtype : UInt8) : Steady (readBody subtype) :=
  (Steady.when _ Steady.u40).map₂ (steady_readEntries _ _) (TimingReport.mk _)

namespace Payload

theorem steady_readBody (type : PayloadType) (subtype : UInt8) : Steady (readBody type subtype) := by
  cases type with
  | blink => exact (Blink.steady_readBody subtype).map blink
  | beacon => exact (Beacon.steady_readBody subtype).map beacon
  | rangingRequest => exact Steady.u8.map fun flags => rangingRequest ⟨subtype, flags⟩
  | rangingResponse => exact (RangingResponse.steady_readBody subtype).map rangingResponse
  | configRequest => exact (SettingsRequest.steady_readBody subtype).map configRequest
  | configResponse => exact (SettingsResponse.steady_readBody subtype).map configResponse
  | timing => exact (TimingReport.steady_readBody subtype).map timing

theorem steady_readTagged : Steady readTagged := by
  refine Steady.u8.bind fun byte => ?_
  dsimp only
  split
  · exact steady_readBody _ _
  · exact Steady.unsupported _

-- Behind the magic byte, a payload is read like any other value.
theorem run_magic1 (rest : List UInt8) :
    Reader.run (do readFrom (← Reader.u8)) (magic1 :: rest)
      = Reader.run (do let _ ← Reader.u8; readTagged) (magic1 :: rest) := by
  have hbyte : Reader.u8 (Cursor.start (magic1 :: rest)) = .ok (magic1, ⟨rest.length + 1, rest⟩) :=
    Reads.u8 magic1 (rest.length + 1) rest
  have hstep : (do readFrom (← Reader.u8)) (Cursor.start (magic1 :: rest))
      = (do let _ ← Reader.u8; readTagged) (Cursor.start (magic1 :: rest)) :=
    (Reader.bind_of_ok hbyte).trans (Reader.bind_of_ok hbyte).symm
  rw [Reader.run, Reader.run, StateT.run, StateT.run, hstep]

theorem decode_magic1 (rest : List UInt8) :
    decode (magic1 :: rest) = (Reader.run (do let _ ← Reader.u8; readTagged) (magic1 :: rest)).map Prod.fst := by
  rw [decode, if_neg (by simp), run_magic1]
  cases Reader.run (do let _ ← Reader.u8; readTagged) (magic1 :: rest) <;> rfl

theorem steady_magic1 : Steady (do let _ ← Reader.u8; readTagged) := Steady.u8.bind fun _ => steady_readTagged

theorem foretells_decode {bytes : List UInt8} (hne : bytes ≠ []) :
    Foretells decode (fun p => p.type?.isSome) bytes := by
  obtain ⟨first, rest, rfl⟩ := List.exists_cons_of_ne_nil hne
  by_cases h1 : first = magic1
  · subst h1
    exact ((Foretells.of_steady steady_magic1 _).map Prod.fst _).congr fun more => decode_magic1 (rest ++ more)
  · by_cases h2 : first = magic2
    · subst h2
      exact Foretells.of_unbounded (decode_encrypted rest) (by simp [type?])
    · have hraw : decode (first :: rest) = .ok (raw (first :: rest)) :=
        decode_raw _ (by simpa using h1) (by simpa using h2)
      exact Foretells.of_unbounded hraw (by simp [type?])

end Payload

namespace Frame

-- A frame is its header's bytes and its payload's behind them.
theorem decode_append {front rest : List UInt8} {header : Header} (h : Reads Header.read front header)
    (ancillary : List ControlMessage) : decode (front ++ rest) ancillary =
      (Payload.decode rest).map fun p => ⟨header, p, HardwareTimestamp.ofAncillary ancillary⟩ := by
  have hheader : Header.decode (front ++ rest) = .ok (header, front.length) := h.run rest
  unfold decode
  rw [hheader]
  change ((Payload.decode ((front ++ rest).drop front.length)).bind fun p => _) = _
  rw [List.drop_left]
  cases Payload.decode rest <;> rfl

-- Both are in the buffer.
theorem exists_split {bytes : List UInt8} {header : Header} {length : Nat}
    (h : Header.decode bytes = .ok (header, length)) :
    length ≤ bytes.length ∧
      ∃ front rest, bytes = front ++ rest ∧ front.length = length ∧ Reads Header.read front header ∧
        ∀ ancillary, decode bytes ancillary =
          (Payload.decode rest).map fun p => ⟨header, p, HardwareTimestamp.ofAncillary ancillary⟩ := by
  obtain ⟨front, rest, rfl, rfl, hreads⟩ := Header.steady_read.run_eq_ok_iff.mp h
  exact ⟨by simp, front, rest, rfl, rfl, hreads, decode_append hreads⟩

theorem decode_foretells (bytes : List UInt8) :
    Foretells Header.decode (fun _ => True) bytes ∧
      (bytes ≠ [] → Foretells Payload.decode (fun p => p.type?.isSome) bytes) ∧
      ∀ header length, Header.decode bytes = .ok (header, length) →
        length ≤ bytes.length ∧
          ∃ front rest, bytes = front ++ rest ∧ front.length = length ∧ Reads Header.read front header ∧
            ∀ ancillary, decode bytes ancillary =
              (Payload.decode rest).map fun p => ⟨header, p, HardwareTimestamp.ofAncillary ancillary⟩ :=
  ⟨Foretells.of_steady Header.steady_read bytes, Payload.foretells_decode, fun _ _ => exists_split⟩

-- A timing report that is cut inside the short address of the first of two peers, behind the mask.
theorem decode_foretells_cutAddress :
    Payload.decode [0x37, 0xf2, 2, 0x02, 0x11] = .error (.truncated 6 5) ∧
      ∀ more need available, 1 ≤ more.length →
        Payload.decode ([0x37, 0xf2, 2, 0x02, 0x11] ++ more) = .error (.truncated need available) → 6 < need := by
  have hcut : Payload.decode [0x37, 0xf2, 2, 0x02, 0x11] = .error (.truncated 6 5) := rfl
  refine ⟨hcut, fun more need available hmore h => ?_⟩
  have hlong : 6 ≤ ([0x37, 0xf2, 2, 0x02, 0x11] ++ more : List UInt8).length := by
    simp only [List.length_append, List.length_cons, List.length_nil]
    omega
  exact ((decode_foretells _).2.1 (by simp)).long 6 5 hcut more hlong need available h

end Frame

end UwbRanging
