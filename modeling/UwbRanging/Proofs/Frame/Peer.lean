import UwbRanging.Frame.Basic

namespace UwbRanging

theorem Address.isBroadcast_extended {e : Eui64} : (extended e).isBroadcast = true ↔ e = Eui64.broadcast := by
  simp [isBroadcast, broadcast, extendedBroadcast]

namespace LocalIdentity

variable {me : LocalIdentity}

theorem any_accepts (me : LocalIdentity) (a : Option Address) :
    a.any me.accepts = (a.any Address.isBroadcast || a.any me.isMine) := by
  cases a <;> rfl

-- Only one device is accepted.
theorem accepts_device_iff {e : Eui64} (he : e ≠ Eui64.broadcast) :
    me.accepts (.extended e) = true ↔ e = me.address := by
  have hone : (Address.extended e).isBroadcast = false :=
    Bool.eq_false_iff.mpr fun h => he (Address.isBroadcast_extended.mp h)
  rw [accepts, hone, Bool.false_or]
  exact beq_iff_eq

end LocalIdentity

namespace Frame

theorem device?_eq_some_iff {a : Option Address} {e : Eui64} :
    device? a = some e ↔ a = some (.extended e) ∧ e ≠ Eui64.broadcast := by
  unfold device?
  cases a with
  | none => simp
  | some a =>
    cases a with
    | short v => simp [Address.eui?]
    | extended x =>
      dsimp only
      by_cases hx : x = Eui64.broadcast
      · rw [if_pos (Address.isBroadcast_extended.mpr hx)]
        refine ⟨nofun, ?_⟩
        rintro ⟨⟨rfl⟩, he⟩
        exact (he hx).elim
      · rw [if_neg fun h => hx (Address.isBroadcast_extended.mp h)]
        constructor
        · rintro ⟨rfl⟩
          exact ⟨rfl, hx⟩
        · rintro ⟨⟨rfl⟩, -⟩
          rfl

theorem device?_of_broadcast {a : Option Address} (h : a.any Address.isBroadcast = true) : device? a = none := by
  cases a with
  | none => rfl
  | some a => exact if_pos h

variable (f : Frame) (me : LocalIdentity)

-- The destination is this interface or everyone.
def isForMe : Bool := f.header.dst.any me.accepts

-- The source is this interface or everyone.
def isFromMe : Bool := f.header.src.any me.accepts

variable {f me}

theorem peerEui_eq_some_iff {e : Eui64} : f.peerEui me = some e ↔
    f.isForMe me = true ∧ device? f.header.src = some e ∨
      (f.isForMe me = true → device? f.header.src = none) ∧ f.isFromMe me = true ∧ device? f.header.dst = some e := by
  unfold peerEui isForMe isFromMe
  cases f.header.dst.any me.accepts <;> cases f.header.src.any me.accepts <;> cases device? f.header.src <;> simp

theorem peerEui_eq_none_iff : f.peerEui me = none ↔
    (f.isForMe me = true → device? f.header.src = none) ∧ (f.isFromMe me = true → device? f.header.dst = none) := by
  unfold peerEui isForMe isFromMe
  cases f.header.dst.any me.accepts <;> cases f.header.src.any me.accepts <;> cases device? f.header.src <;> simp

theorem isForMe_of_dst {e : Eui64} (he : e ≠ Eui64.broadcast) (hdst : f.header.dst = some (.extended e)) :
    f.isForMe me = true ↔ e = me.address := by
  rw [isForMe, hdst]
  exact LocalIdentity.accepts_device_iff he

theorem isFromMe_of_src {e : Eui64} (he : e ≠ Eui64.broadcast) (hsrc : f.header.src = some (.extended e)) :
    f.isFromMe me = true ↔ e = me.address := by
  rw [isFromMe, hsrc]
  exact LocalIdentity.accepts_device_iff he

-- A result is one of the two devices of the frame, and tells of the other address that it is accepted.
structure Names (f : Frame) (me : LocalIdentity) (e : Eui64) : Prop where
  device : e ≠ Eui64.broadcast
  address : f.header.src = some (.extended e) ∨ f.header.dst = some (.extended e)
  source : f.header.src = some (.extended e) → f.isForMe me = true
  destination : f.header.dst = some (.extended e) → f.isFromMe me = true
  own : e = me.address ↔ f.isForMe me = true ∧ f.isFromMe me = true

theorem names_of_peerEui {e : Eui64} (h : f.peerEui me = some e) : f.Names me e := by
  rcases peerEui_eq_some_iff.mp h with ⟨hfor, hsource⟩ | ⟨hno, hfrom, hdestination⟩
  · obtain ⟨hsrc, he⟩ := device?_eq_some_iff.mp hsource
    have hown : f.isFromMe me = true ↔ e = me.address := isFromMe_of_src he hsrc
    refine ⟨he, .inl hsrc, fun _ => hfor, fun hdst => ?_, ?_⟩
    · exact hown.mpr ((isForMe_of_dst he hdst).mp hfor)
    · rw [hown]
      exact ⟨fun h => ⟨hfor, h⟩, And.right⟩
  · obtain ⟨hdst, he⟩ := device?_eq_some_iff.mp hdestination
    have hown : f.isForMe me = true ↔ e = me.address := isForMe_of_dst he hdst
    refine ⟨he, .inr hdst, fun hsrc => ?_, fun _ => hfrom, ?_⟩
    · exact hown.mpr ((isFromMe_of_src he hsrc).mp hfrom)
    · rw [hown]
      exact ⟨fun h => ⟨h, hfrom⟩, And.left⟩

-- What is asked of the other end of a frame: it is never this interface, and it is the receiver only of what this
-- interface sent.
structure NamesOther (f : Frame) (me : LocalIdentity) : Prop where
  device : ∀ e, f.peerEui me = some e → e ≠ Eui64.broadcast
  address : ∀ e, f.peerEui me = some e → f.header.src = some (.extended e) ∨ f.header.dst = some (.extended e)
  other : ∀ e, f.peerEui me = some e → e ≠ me.address
  source : ∀ e, f.peerEui me = some e → f.header.src = some (.extended e) →
    f.header.dst.any me.isMine = true ∨ f.header.dst.any Address.isBroadcast = true
  destination : ∀ e, f.peerEui me = some e → f.header.dst = some (.extended e) → f.header.src.any me.isMine = true
  outside : f.header.src.any me.isMine = false → f.header.dst.any me.isMine = false →
    f.header.dst.any Address.isBroadcast = false → f.peerEui me = none

theorem isForMe_iff :
    f.isForMe me = true ↔ f.header.dst.any Address.isBroadcast = true ∨ f.header.dst.any me.isMine = true := by
  rw [isForMe, LocalIdentity.any_accepts, Bool.or_eq_true]

theorem isFromMe_iff :
    f.isFromMe me = true ↔ f.header.src.any Address.isBroadcast = true ∨ f.header.src.any me.isMine = true := by
  rw [isFromMe, LocalIdentity.any_accepts, Bool.or_eq_true]

-- A source that is everyone is taken for this interface, and so the rule fails. It also fails for what this interface
-- sends to itself or to everyone.
theorem namesOther_iff : f.NamesOther me ↔ f.peerEui me = none ∨
    (f.header.src.any Address.isBroadcast = true → f.header.src.any me.isMine = true) ∧
      ¬ (f.isForMe me = true ∧ f.isFromMe me = true) := by
  cases hpeer : f.peerEui me with
  | none =>
    refine ⟨fun _ => .inl rfl, fun _ => ?_⟩
    constructor <;> simp [hpeer]
  | some e =>
    have hnames := names_of_peerEui hpeer
    simp only [reduceCtorEq, false_or, ← hnames.own]
    constructor
    · refine fun h => ⟨fun hsrc => ?_, h.other e hpeer⟩
      rcases peerEui_eq_some_iff.mp hpeer with ⟨-, hdevice⟩ | ⟨-, -, hdevice⟩
      · rw [device?_of_broadcast hsrc] at hdevice
        cases hdevice
      · exact h.destination e hpeer (device?_eq_some_iff.mp hdevice).1
    · rintro ⟨hsrc, hother⟩
      have hmine (h : f.isFromMe me = true) : f.header.src.any me.isMine = true := (isFromMe_iff.mp h).elim hsrc id
      constructor <;> simp only [hpeer, Option.some.injEq, forall_eq', reduceCtorEq]
      case device => exact hnames.device
      case address => exact hnames.address
      case other => exact hother
      case source => exact fun h => (isForMe_iff.mp (hnames.source h)).symm
      case destination => exact fun h => hmine (hnames.destination h)
      case outside =>
        intro hsrc hdst hone
        rcases hnames.address with h | h
        · simpa [hdst, hone] using isForMe_iff.mp (hnames.source h)
        · simpa [hsrc] using hmine (hnames.destination h)

-- What the result always tells, when there is none, and when it is the other end.
theorem peerEui_namesOther (f : Frame) (me : LocalIdentity) :
    (∀ e, f.peerEui me = some e → f.Names me e) ∧
    (f.peerEui me = none ↔ (f.isForMe me = true → device? f.header.src = none) ∧
      (f.isFromMe me = true → device? f.header.dst = none)) ∧
    (f.NamesOther me ↔ f.peerEui me = none ∨
      (f.header.src.any Address.isBroadcast = true → f.header.src.any me.isMine = true) ∧
        ¬ (f.isForMe me = true ∧ f.isFromMe me = true)) :=
  ⟨fun _ => names_of_peerEui, peerEui_eq_none_iff, namesOther_iff⟩

-- What an anchor sends to a tag under its short address.
theorem peerEui_namesOther_toTag :
    let me : LocalIdentity := ⟨⟨0x70b3d5b1e0000001⟩, some 7⟩
    let f : Frame := {
      header := { src := some (.short 7), dst := some (.extended ⟨0x70b3d5b1e0000024⟩) }
      payload := .blink {} }
    f.peerEui me = some ⟨0x70b3d5b1e0000024⟩ ∧ f.Names me ⟨0x70b3d5b1e0000024⟩ ∧ f.NamesOther me := by
  intro me f
  have hpeer : f.peerEui me = some ⟨0x70b3d5b1e0000024⟩ := by decide
  obtain ⟨hnames, -, hother⟩ := peerEui_namesOther f me
  exact ⟨hpeer, hnames _ hpeer, hother.mpr (.inr ⟨by decide, by decide⟩)⟩

-- A frame from everyone to a tag. An anchor that neither sent it nor is to receive it is told of the tag. Of its own
-- blink to everyone it is told that it is the other end itself.
theorem peerEui_fromEveryone :
    let me : LocalIdentity := ⟨⟨0x70b3d5b1e0000001⟩, none⟩
    let f : Frame := {
      header := { src := some Address.broadcast, dst := some (.extended ⟨0x70b3d5b1e0000024⟩) }
      payload := .blink {} }
    (f.peerEui me = some ⟨0x70b3d5b1e0000024⟩ ∧ f.header.src.any me.isMine = false ∧
      f.header.dst.any me.isMine = false ∧ f.header.dst.any Address.isBroadcast = false ∧ ¬ f.NamesOther me) ∧
    (blink me.address {}).peerEui me = some me.address ∧ ¬ (blink me.address {}).NamesOther me := by
  intro me f
  have hpeer : f.peerEui me = some ⟨0x70b3d5b1e0000024⟩ := by decide
  have hblink : (blink me.address {}).peerEui me = some me.address := by decide
  refine ⟨⟨hpeer, by decide, by decide, by decide, fun h => ?_⟩, hblink, fun h => h.other _ hblink rfl⟩
  have hnone := h.outside (by decide) (by decide) (by decide)
  rw [hpeer] at hnone
  cases hnone

end Frame

end UwbRanging
