import UwbRanging.Proofs.Frame.Payload
import UwbRanging.Proofs.Wire.SameBits

namespace UwbRanging

namespace Element

-- A value is read in the width of its id, and so it has that width.
theorem accepts_value (id : UInt8) :
    Accepts (readValue (Width.ofId id)) fun bytes v =>
      (Element.mk id v).valueBytes = .ok bytes ∧ (Element.mk id v).WellFormed := by
  unfold valueBytes WellFormed
  dsimp only
  cases Width.ofId id
  case u8 =>
    refine Accepts.u8.map ?_
    rintro _ n rfl
    have hn : n.toUInt32.toNat < 2 ^ 8 := n.toUInt32_toNat ▸ n.toNat_lt
    have hlt : n.toUInt32 < 0x100 := UInt32.lt_iff_toNat_lt.mpr hn
    exact ⟨by dsimp only; rw [if_pos hlt, UInt8.toUInt8_toUInt32], hn⟩
  case u16 =>
    refine Accepts.u16.map ?_
    rintro _ n rfl
    have hn : n.toUInt32.toNat < 2 ^ 16 := n.toNat_lt
    have hlt : n.toUInt32 < 0x10000 := UInt32.lt_iff_toNat_lt.mpr hn
    exact ⟨by dsimp only; rw [if_pos hlt, UInt16.toUInt16_toUInt32], hn⟩
  case u32 => exact Accepts.u32.map fun bytes n hn => ⟨congrArg Except.ok hn.symm, trivial⟩
  case «variable» => exact Accepts.counted.map fun bytes data hdata => ⟨congrArg Except.ok hdata.1.symm, hdata.2⟩

theorem accepts_read : Accepts read fun bytes e => e.encode = .ok bytes ∧ e.WellFormed := by
  have hvalue (id : UInt8) : Accepts (do return Element.mk id (← readValue (Width.ofId id)))
      fun bytes e => e.id = id ∧ e.valueBytes = .ok bytes ∧ e.WellFormed :=
    (accepts_value id).map fun _ _ h => ⟨rfl, h⟩
  refine Accepts.u8.bind hvalue ?_
  rintro _ value id e rfl ⟨rfl, hvalue, hw⟩
  exact ⟨by rw [encode, hvalue]; rfl, hw⟩

theorem accepts_times (n : Nat) :
    Accepts (read.times n) fun bytes es => encodeAll es = .ok bytes ∧ es.length = n ∧ ∀ e ∈ es, e.WellFormed := by
  induction n with
  | zero => exact Accepts.pure ⟨rfl, rfl, by simp⟩
  | succ n ih =>
    refine accepts_read.map₂ ih ?_
    rintro front back e rest ⟨hfront, he⟩ ⟨hback, rfl, hrest⟩
    exact ⟨by rw [encodeAll, hfront, hback]; rfl, rfl, List.forall_mem_cons.mpr ⟨he, hrest⟩⟩

end Element

-- The flags hold the high half of their byte.
theorem BlinkFlags.testBit_toByte_ofByte (byte : UInt8) {k : Nat} (hk : 4 ≤ k) :
    (ofByte byte).toByte.toNat.testBit k = byte.toNat.testBit k := by
  by_cases hwide : 8 ≤ k
  · rw [Bits.testBit_byte_eq_false _ hwide, Bits.testBit_byte_eq_false _ hwide]
  · have hcases : k = 4 ∨ k = 5 ∨ k = 6 ∨ k = 7 := by omega
    simp (disch := decide) only [toByte, ofByte, UInt32.toNat_toUInt8, Nat.testBit_mod_two_pow, UInt32.toNat_or,
      Nat.testBit_or, Bits.testBit_placeFlag, Bits.test_eq_testBit, UInt8.toNat_toUInt32]
    rcases hcases with rfl | rfl | rfl | rfl <;> simp

namespace Blink

theorem accepts_readElements :
    Accepts readElements fun bytes es =>
      encodeElements es = .ok bytes ∧ es.length ≤ 255 ∧ ∀ e ∈ es, e.WellFormed := by
  refine Accepts.u8.bind (fun count => Element.accepts_times count.toNat) ?_
  rintro _ body count es rfl ⟨hbody, hlength, hes⟩
  have hbyte := count.toNat_lt
  refine ⟨?_, by omega, hes⟩
  rw [encodeElements, if_neg (by omega), hbody, hlength, UInt8.ofNat_toNat]
  rfl

-- What follows the flags.
theorem accepts_fields (flags : BlinkFlags) (withCookie withElements : Bool) :
    Accepts (do
        let cookie ← Reader.when withCookie (Reader.octets 16)
        let elements ← Reader.when withElements readElements
        return Blink.mk flags cookie elements) fun bytes b =>
      b.WellFormed ∧ b.flags = flags ∧ b.cookie.isSome = withCookie ∧ b.elements.isSome = withElements ∧
        b.encodeBody = .ok (flags.toByte :: bytes) := by
  refine ((Accepts.octets 16).when withCookie).map₂ (accepts_readElements.when withElements) ?_
  rintro x y cookie elements ⟨hcookie, hx⟩ ⟨helements, hy⟩
  have hfront : x = cookie.elim [] Octets.toList := by cases cookie <;> exact hx
  cases elements with
  | none =>
    have hw : (Blink.mk flags cookie none).WellFormed := fun es hes => by cases hes
    refine ⟨hw, rfl, hcookie, helements, ?_⟩
    rw [hfront, show y = [] from hy]
    rfl
  | some es =>
    obtain ⟨hbody, hcount, hes⟩ := hy
    refine ⟨?_, rfl, hcookie, helements, ?_⟩
    · rintro es' ⟨rfl⟩
      exact ⟨hcount, hes⟩
    · rw [hfront, encodeBody]
      dsimp only
      rw [hbody]
      rfl

-- The low half of the flags is not kept. Bit 0 of the subtype is not looked at.
theorem accepts_readBody (subtype : UInt8) :
    Accepts (readBody subtype) fun bytes b =>
      b.WellFormed ∧ (Bits.test subtype.toUInt32 3 = b.cookie.isSome ∧
        Bits.test subtype.toUInt32 2 = b.elements.isSome ∧ Bits.test subtype.toUInt32 1 = false) ∧
      ∃ body, b.encodeBody = .ok body ∧ SameBits (fun i k => i = 0 ∧ k < 4) bytes body := by
  unfold readBody
  cases hextended : Bits.test subtype.toUInt32 1
  case true =>
    simp only [hextended, if_true]
    exact Accepts.bind_never fun _ => Accepts.bind_never fun _ => Accepts.bind_never fun _ =>
      Accepts.unsupported_bind _ _ _
  case false =>
    simp only [hextended, if_false, Bool.false_eq_true]
    refine Accepts.u8.bind (fun flags => accepts_fields (BlinkFlags.ofByte flags) _ _) ?_
    rintro _ bytes flags b rfl ⟨hw, hflags, hcookie, helements, hbody⟩
    refine ⟨hw, ⟨hcookie.symm, helements.symm, trivial⟩, _, hbody, ?_⟩
    refine SameBits.cons (fun k hk => ?_) (SameBits.refl _ bytes)
    exact (BlinkFlags.testBit_toByte_ofByte flags (by omega)).symm

end Blink

theorem Beacon.accepts_readBody (subtype : UInt8) :
    Accepts (readBody subtype) fun bytes b => bytes = b.encodeBody ∧ b.subtype = subtype := by
  refine Accepts.u8.map₂ (Accepts.nat 8) ?_
  rintro _ _ flags n rfl ⟨rfl, hn⟩
  have hback : (UInt64.ofNat n).toNat = n := by
    rw [UInt64.toNat_ofNat', Nat.mod_eq_of_lt (show n < 2 ^ 64 from hn)]
  refine ⟨?_, rfl⟩
  rw [encodeBody, hback]
  rfl

theorem Header.accepts_address (long : Bool) :
    Accepts (readAddress long) fun bytes a => bytes = a.toWire ∧ a.isLong = long := by
  cases long with
  | false => exact Accepts.u16.map fun bytes v h => ⟨h, rfl⟩
  | true =>
    refine (Accepts.bytes 8).map ?_
    rintro data _ ⟨rfl, hlength⟩
    have hlt : LittleEndian.decode data < LittleEndian.span 8 := hlength ▸ LittleEndian.decode_lt data
    have hback : Eui64.toWire (Eui64.ofWire data) = data := by
      rw [Eui64.toWire, Eui64.ofWire, UInt64.toNat_ofNat',
        Nat.mod_eq_of_lt (show LittleEndian.decode data < 2 ^ 64 from hlt), ← hlength, LittleEndian.encode_decode]
    exact ⟨hback.symm, rfl⟩

-- Peers behind a mask are read from their own bytes, and from a mask that may differ in its padding.
theorem accepts_masked {α : Type} {step : Bool → Reader α} {addr : α → Address} {wire : α → List UInt8}
    {valid : α → Prop}
    (hstep : ∀ long, Accepts (step long) fun bytes a => bytes = wire a ∧ (addr a).isLong = long ∧ valid a) :
    Accepts (do Reader.each step (← LongMask.decode)) fun bytes peers =>
      peers.length ≤ 255 ∧ (∀ a ∈ peers, valid a) ∧
        SameBits (LongMask.Idle peers.length) bytes
          (LongMask.encode (peers.map fun a => (addr a).isLong) ++ peers.flatMap wire) := by
  refine LongMask.accepts_decode.bind (Accepts.each hstep) ?_
  rintro x _ flags peers ⟨hcount, hsame⟩ ⟨rfl, rfl, hvalid⟩
  rw [List.length_map] at hcount hsame
  exact ⟨hcount, hvalid, hsame.append (SameBits.refl _ _)⟩

namespace RangingResponse

theorem accepts_readPeers :
    Accepts readPeers fun bytes peers =>
      peers.length ≤ 255 ∧ (∀ p ∈ peers, p.2.toNat < 2 ^ 40) ∧
        SameBits (LongMask.Idle peers.length) bytes (encodePeers peers) := by
  refine accepts_masked fun long => (Header.accepts_address long).map₂ Accepts.u40 ?_
  rintro _ _ addr time ⟨rfl, hlong⟩ ⟨rfl, htime⟩
  exact ⟨rfl, hlong, htime⟩

-- The padding of the mask of its peers, whose count follows the transmit time.
def Idle (r : RangingResponse) (i k : Nat) : Prop :=
  ∃ peers, r.rxTimes = some peers ∧ LongMask.Idle peers.length (i - 5) k

theorem accepts_readBody (subtype : UInt8) :
    Accepts (readBody subtype) fun bytes r =>
      r.WellFormed ∧ r.rxTimes.isSome = !Bits.test subtype.toUInt32 3 ∧
        ∃ body, r.encodeBody = .ok body ∧ SameBits r.Idle bytes body := by
  refine Accepts.u40.map₂ (accepts_readPeers.when _) ?_
  rintro _ y txTime rxTimes ⟨rfl, htx⟩ ⟨hsome, hy⟩
  cases rxTimes with
  | none =>
    rw [show y = [] from hy, List.append_nil]
    exact ⟨⟨htx, fun peers h => by cases h⟩, hsome, _, rfl, SameBits.refl _ _⟩
  | some peers =>
    obtain ⟨hcount, htimes, hsame⟩ := hy
    refine ⟨⟨htx, ?_⟩, hsome, Wire.u40 txTime ++ encodePeers peers, ?_, ?_⟩
    · rintro _ ⟨rfl⟩
      exact ⟨hcount, htimes⟩
    · dsimp only [encodeBody]
      rw [checkPeers_eq_ok hcount]
      rfl
    · have hlength : (Wire.u40 txTime).length = 5 := LittleEndian.length_encode 5 txTime.toNat
      refine (SameBits.refl _ _).append (hsame.mono fun i k hidle => ⟨peers, rfl, ?_⟩)
      rwa [hlength, Nat.add_sub_cancel_left]

end RangingResponse

namespace Setting

theorem accepts_readKeys : Accepts readKeys fun bytes keys => encodeKeys keys = .ok bytes ∧ keys.length ≤ 255 := by
  refine (Accepts.u16.mono fun _ _ h => ⟨h, trivial⟩).countedTimes.mono ?_
  rintro _ keys ⟨rfl, hcount, -⟩
  exact ⟨if_neg (by omega), hcount⟩

theorem accepts_read :
    Accepts read fun bytes s => bytes = Wire.u16 s.key ++ Wire.counted s.value ∧ s.value.length ≤ 255 := by
  refine Accepts.u16.map₂ Accepts.counted ?_
  rintro _ _ key value rfl ⟨rfl, hvalue⟩
  exact ⟨rfl, hvalue⟩

theorem accepts_readAll :
    Accepts readAll fun bytes settings => encodeAll settings = .ok bytes ∧ WellFormed settings := by
  refine accepts_read.countedTimes.mono ?_
  rintro _ settings ⟨rfl, hcount, hvalues⟩
  exact ⟨if_neg (by omega), hcount, hvalues⟩

end Setting

theorem SettingsRequest.accepts_readBody (subtype : UInt8) :
    Accepts (readBody subtype) fun bytes r => r.WellFormed ∧ r.subtype = subtype ∧ r.encodeBody = .ok bytes := by
  unfold readBody
  split
  · exact Accepts.u16.map fun _ _ h => ⟨trivial, rfl, congrArg Except.ok h.symm⟩
  · exact Accepts.u16.map fun _ _ h => ⟨trivial, rfl, congrArg Except.ok h.symm⟩
  · exact Setting.accepts_readKeys.map fun _ _ h => ⟨h.2, rfl, h.1⟩
  · exact Setting.accepts_readAll.map fun _ _ h => ⟨h.2, rfl, h.1⟩
  · exact Setting.accepts_readKeys.map fun _ _ h => ⟨h.2, rfl, h.1⟩
  · exact (Accepts.octets 16).map fun _ _ h => ⟨trivial, rfl, congrArg Except.ok h.symm⟩
  · exact Accepts.counted.map fun _ _ h => ⟨h.2, rfl, congrArg Except.ok h.1.symm⟩
  · exact Accepts.unsupported _

theorem SettingsResponse.accepts_readBody (subtype : UInt8) :
    Accepts (readBody subtype) fun bytes r => r.WellFormed ∧ r.subtype = subtype ∧ r.encodeBody = .ok bytes := by
  unfold readBody
  split
  · exact Accepts.u16.map fun _ _ h => ⟨trivial, rfl, congrArg Except.ok h.symm⟩
  · refine Accepts.u16.map₂ Setting.accepts_readKeys ?_
    rintro _ keyBytes iterator keys rfl ⟨hkeys, hcount⟩
    refine ⟨hcount, rfl, ?_⟩
    dsimp only [encodeBody]
    rw [hkeys]
    rfl
  · exact Setting.accepts_readAll.map fun _ _ h => ⟨h.2, rfl, h.1⟩
  · exact Accepts.u8.map fun _ _ h => ⟨trivial, rfl, congrArg Except.ok h.symm⟩
  · exact Accepts.u8.map fun _ _ h => ⟨trivial, rfl, congrArg Except.ok h.symm⟩
  · exact (Accepts.octets 16).map fun _ _ h => ⟨trivial, rfl, congrArg Except.ok h.symm⟩
  · exact Accepts.counted.map fun _ _ h => ⟨h.2, rfl, congrArg Except.ok h.1.symm⟩
  · exact Accepts.unsupported _

theorem RxInfo.accepts_read : Accepts read fun bytes i => bytes = i.toWire := by
  have hthird (first second : UInt16) : Accepts (do return RxInfo.mk first second (← Reader.u16) (← Reader.u16))
      fun bytes i => i.first = first ∧ i.second = second ∧ bytes = Wire.u16 i.third ++ Wire.u16 i.fourth := by
    refine Accepts.u16.map₂ Accepts.u16 ?_
    rintro _ _ third fourth rfl rfl
    exact ⟨rfl, rfl, rfl⟩
  have hsecond (first : UInt16) :
      Accepts (do return RxInfo.mk first (← Reader.u16) (← Reader.u16) (← Reader.u16)) fun bytes i =>
        i.first = first ∧ bytes = Wire.u16 i.second ++ (Wire.u16 i.third ++ Wire.u16 i.fourth) := by
    refine Accepts.u16.bind (hthird first) ?_
    rintro _ _ second i rfl ⟨hfirst, rfl, rfl⟩
    exact ⟨hfirst, rfl⟩
  refine Accepts.u16.bind hsecond ?_
  rintro _ _ first i rfl ⟨rfl, rfl⟩
  simp only [toWire, List.append_assoc]

theorem TimingEntry.accepts_read (withTime withInfo long : Bool) :
    Accepts (read withTime withInfo long) fun bytes e =>
      bytes = e.toWire ∧ e.addr.isLong = long ∧ e.rxTime.isSome = withTime ∧ e.rxInfo.isSome = withInfo ∧
        ∀ t, e.rxTime = some t → t.toNat < 2 ^ 40 := by
  have hfields (addr : Address) :
      Accepts (do return TimingEntry.mk addr (← Reader.when withTime Reader.u40) (← Reader.when withInfo RxInfo.read))
        fun bytes e => e.addr = addr ∧ bytes = e.rxTime.elim [] Wire.u40 ++ e.rxInfo.elim [] RxInfo.toWire ∧
          e.rxTime.isSome = withTime ∧ e.rxInfo.isSome = withInfo ∧ ∀ t, e.rxTime = some t → t.toNat < 2 ^ 40 := by
    have hinfos := (RxInfo.accepts_read.mono fun _ _ h => ⟨h, trivial⟩).whenWire withInfo
    refine (Accepts.u40.whenWire withTime).map₂ hinfos ?_
    rintro _ _ rxTime rxInfo ⟨rfl, htime, hvalid⟩ ⟨rfl, hinfo, -⟩
    exact ⟨rfl, rfl, htime, hinfo, hvalid⟩
  refine (Header.accepts_address long).bind hfields ?_
  rintro _ _ addr e ⟨rfl, hlong⟩ ⟨rfl, rfl, hrest⟩
  exact ⟨by rw [toWire, List.append_assoc], hlong, hrest⟩

namespace TimingReport

-- Entries are there only if one of their fields is announced.
theorem accepts_readEntries (withTime withInfo : Bool) :
    Accepts (readEntries withTime withInfo) fun bytes entries =>
      if withTime || withInfo then
        entries.length ≤ 255 ∧
          (∀ e ∈ entries, e.rxTime.isSome = withTime ∧ e.rxInfo.isSome = withInfo ∧
            ∀ t, e.rxTime = some t → t.toNat < 2 ^ 40) ∧
          SameBits (LongMask.Idle entries.length) bytes
            (LongMask.encode (entries.map fun e => e.addr.isLong) ++ entries.flatMap TimingEntry.toWire)
      else bytes = [] ∧ entries = [] := by
  unfold readEntries
  split
  · exact accepts_masked (TimingEntry.accepts_read withTime withInfo)
  · exact Accepts.pure ⟨rfl, rfl⟩

-- The padding of the mask of its entries, whose count follows the transmit time.
def Idle (t : TimingReport) (i k : Nat) : Prop :=
  LongMask.Idle t.entries.length (i - if t.txTime.isSome then 5 else 0) k

theorem encodeBody_of_nil {t : TimingReport} (hnil : t.entries = []) :
    t.encodeBody = .ok (t.txTime.elim [] Wire.u40) := by
  have huniform : t.isUniform = true := by simp [isUniform, hnil]
  have hentries : t.encodeEntries = .ok [] := by simp [encodeEntries, hasTimes, hasInfos, hnil, pure, Except.pure]
  rw [encodeBody, if_pos huniform, hentries]
  change Except.ok (t.txTime.elim [] Wire.u40 ++ []) = _
  rw [List.append_nil]

theorem encodeBody_of_mem {t : TimingReport} (hw : t.WellFormed) {e : TimingEntry} (he : e ∈ t.entries) :
    t.encodeBody = .ok (t.txTime.elim [] Wire.u40 ++
      (LongMask.encode (t.entries.map fun e => e.addr.isLong) ++ t.entries.flatMap TimingEntry.toWire)) := by
  rw [encodeBody, if_pos (t.isUniform_iff.mpr hw.alike), encodeEntries, if_pos (t.hasFields_of_mem hw he),
    checkPeers_eq_ok hw.count]
  rfl

-- The entries were all read with the announced fields, so that the first one announces them again.
theorem exists_sameBits {t : TimingReport} {withTime withInfo : Bool} {bytes : List UInt8} (hne : t.entries ≠ [])
    (hsome : (withTime || withInfo) = true) (htx : ∀ time, t.txTime = some time → time.toNat < 2 ^ 40)
    (hcount : t.entries.length ≤ 255)
    (hfields : ∀ e ∈ t.entries, e.rxTime.isSome = withTime ∧ e.rxInfo.isSome = withInfo ∧
      ∀ time, e.rxTime = some time → time.toNat < 2 ^ 40)
    (hsame : SameBits (LongMask.Idle t.entries.length) bytes
      (LongMask.encode (t.entries.map fun e => e.addr.isLong) ++ t.entries.flatMap TimingEntry.toWire)) :
    t.WellFormed ∧ t.hasTimes = withTime ∧ t.hasInfos = withInfo ∧
      ∃ body, t.encodeBody = .ok body ∧ SameBits t.Idle (t.txTime.elim [] Wire.u40 ++ bytes) body := by
  obtain ⟨first, hfirst⟩ := List.exists_mem_of_ne_nil t.entries hne
  have hw : t.WellFormed :=
    ⟨htx, hcount, fun e he => (hfields e he).2.2,
      withTime, withInfo, hsome, fun e he => ⟨(hfields e he).1, (hfields e he).2.1⟩⟩
  obtain ⟨htimes, hinfos⟩ := hw.alike.fields hfirst
  have hlength : (t.txTime.elim [] Wire.u40).length = if t.txTime.isSome then 5 else 0 := by
    cases t.txTime with
    | none => rfl
    | some time => exact LittleEndian.length_encode 5 time.toNat
  refine ⟨hw, htimes.symm.trans (hfields first hfirst).1, hinfos.symm.trans (hfields first hfirst).2.1,
    _, encodeBody_of_mem hw hfirst, ?_⟩
  refine (SameBits.refl _ _).append (hsame.mono fun i k hidle => ?_)
  rwa [Idle, hlength, Nat.add_sub_cancel_left]

-- A report without entries forgets which fields they would have carried.
theorem accepts_readBody (subtype : UInt8) :
    Accepts (readBody subtype) fun bytes t =>
      t.WellFormed ∧ t.timing = Bits.test subtype.toUInt32 3 ∧ t.txTime.isSome = Bits.test subtype.toUInt32 2 ∧
        ∃ body, t.encodeBody = .ok body ∧ body.length ≤ bytes.length ∧
          (t.entries ≠ [] → t.hasTimes = Bits.test subtype.toUInt32 1 ∧ t.hasInfos = Bits.test subtype.toUInt32 0 ∧
            SameBits t.Idle bytes body) := by
  refine (Accepts.u40.whenWire _).map₂ (accepts_readEntries _ _) ?_
  rintro _ bytes txTime entries ⟨rfl, htx, hvalid⟩ hentries
  by_cases hnil : entries = []
  · subst hnil
    refine ⟨⟨hvalid, by simp, by simp, true, true, rfl, by simp⟩, rfl, htx, _, encodeBody_of_nil rfl, ?_, ?_⟩
    · rw [List.length_append]
      exact Nat.le_add_right _ _
    · exact fun hne => (hne rfl).elim
  · split at hentries
    · rename_i hsome
      obtain ⟨hcount, hfields, hsame⟩ := hentries
      have hback := exists_sameBits (t := ⟨Bits.test subtype.toUInt32 3, txTime, entries⟩) hnil hsome hvalid hcount
        hfields hsame
      obtain ⟨hw, htimes, hinfos, body, hbody, hbits⟩ := hback
      exact ⟨hw, rfl, htx, body, hbody, Nat.le_of_eq hbits.length.symm, fun _ => ⟨htimes, hinfos, hbits⟩⟩
    · exact (hnil hentries.2).elim

end TimingReport

end UwbRanging
