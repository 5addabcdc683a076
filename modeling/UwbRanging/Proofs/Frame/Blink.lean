import UwbRanging.Frame.Blink
import UwbRanging.Proofs.Bits
import UwbRanging.Proofs.Wire.Reads

namespace UwbRanging

namespace Element

-- The value has the form and the width that the id selects.
def WellFormed (e : Element) : Prop :=
  match Width.ofId e.id, e.value with
  | .u8, .int n => n.toNat < 2 ^ 8
  | .u16, .int n => n.toNat < 2 ^ 16
  | .u32, .int _ => True
  | .variable, .bytes data => data.length ≤ 255
  | _, _ => False

theorem reads_value (e : Element) (hw : e.WellFormed) :
    ReadsBack (readValue (Width.ofId e.id)) e.valueBytes e.value := by
  obtain ⟨id, value⟩ := e
  unfold WellFormed at hw
  unfold valueBytes
  dsimp only at hw ⊢
  cases hwidth : Width.ofId id <;> cases value <;> rw [hwidth] at hw <;> dsimp only at hw ⊢
  case u8.int n =>
    have hn : n < 0x100 := UInt32.lt_iff_toNat_lt.mpr hw
    have hback : n.toUInt8.toUInt32 = n := by
      apply UInt32.toNat_inj.mp
      rw [UInt8.toNat_toUInt32, UInt32.toNat_toUInt8, Nat.mod_eq_of_lt hw]
    have h := (Reads.u8 n.toUInt8).map fun v => ElementValue.int v.toUInt32
    rw [hback] at h
    exact ⟨_, if_pos hn, h⟩
  case u16.int n =>
    have hn : n < 0x10000 := UInt32.lt_iff_toNat_lt.mpr hw
    have hback : n.toUInt16.toUInt32 = n := by
      apply UInt32.toNat_inj.mp
      rw [UInt16.toNat_toUInt32, UInt32.toNat_toUInt16, Nat.mod_eq_of_lt hw]
    have h := (Reads.u16 n.toUInt16).map fun v => ElementValue.int v.toUInt32
    rw [hback] at h
    exact ⟨_, if_pos hn, h⟩
  case u32.int n => exact ⟨_, rfl, (Reads.u32 n).map ElementValue.int⟩
  case variable.bytes data => exact ⟨_, rfl, (Reads.counted hw).map ElementValue.bytes⟩

theorem reads_encode (e : Element) (hw : e.WellFormed) : ReadsBack read e.encode e := by
  obtain ⟨value, hvalue, hread⟩ := e.reads_value hw
  refine ⟨e.id :: value, by rw [encode, hvalue]; rfl, ?_⟩
  exact (Reads.u8 e.id).bind (hread.map (Element.mk e.id))

theorem reads_encodeAll (es : List Element) (hw : ∀ e ∈ es, e.WellFormed) :
    ReadsBack (read.times es.length) (encodeAll es) es := by
  induction es with
  | nil => exact ⟨[], rfl, Reads.pure []⟩
  | cons e rest ih =>
    obtain ⟨front, hfront, hhead⟩ := e.reads_encode (hw e List.mem_cons_self)
    obtain ⟨back, hback, htail⟩ := ih fun x hx => hw x (List.mem_cons_of_mem e hx)
    refine ⟨front ++ back, by rw [encodeAll, hfront, hback]; rfl, ?_⟩
    exact hhead.map₂ htail List.cons

end Element

namespace Blink

-- The elements can be counted, and each has its width.
def WellFormed (b : Blink) : Prop :=
  ∀ es, b.elements = some es → es.length ≤ 255 ∧ ∀ e ∈ es, e.WellFormed

theorem subtype_fields (b : Blink) :
    Bits.test b.subtype.toUInt32 3 = b.cookie.isSome ∧ Bits.test b.subtype.toUInt32 2 = b.elements.isSome ∧
      Bits.test b.subtype.toUInt32 1 = false := by
  unfold subtype
  cases b.cookie.isSome <;> cases b.elements.isSome <;> decide

theorem reads_encodeElements (es : List Element) (hcount : es.length ≤ 255) (hw : ∀ e ∈ es, e.WellFormed) :
    ReadsBack readElements (encodeElements es) es := by
  obtain ⟨body, hbody, hread⟩ := Element.reads_encodeAll es hw
  refine ⟨UInt8.ofNat es.length :: body, ?_, ?_⟩
  · rw [encodeElements, if_neg (by omega), hbody]
    rfl
  · apply (Reads.u8 (UInt8.ofNat es.length)).bind
    rwa [Reads.toNat_count hcount]

-- Flags and cookie come first. An absent list of elements takes no bytes behind them.
theorem reads_elements (b : Blink) (hw : b.WellFormed) :
    ∃ bytes, b.encodeBody = .ok (b.flags.toByte :: (b.cookie.elim [] Octets.toList ++ bytes)) ∧
      Reads (Reader.when b.elements.isSome readElements) bytes b.elements := by
  unfold encodeBody
  cases he : b.elements with
  | none => exact ⟨[], rfl, Reads.pure none⟩
  | some es =>
    obtain ⟨hcount, hes⟩ := hw es he
    obtain ⟨bytes, hbytes, hread⟩ := reads_encodeElements es hcount hes
    refine ⟨bytes, ?_, hread.map some⟩
    dsimp only
    rw [hbytes]
    rfl

theorem reads_encodeBody (b : Blink) (hw : b.WellFormed) : ReadsBack (readBody b.subtype) b.encodeBody b := by
  obtain ⟨elements, hbytes, hread⟩ := b.reads_elements hw
  obtain ⟨hcookie, hannounced, hextended⟩ := b.subtype_fields
  refine ⟨_, hbytes, ?_⟩
  unfold readBody
  apply (Reads.u8 b.flags.toByte).bind
  simp only [BlinkFlags.ofByte_toByte, hcookie, hannounced, hextended]
  exact (Reads.when fun o _ => Reads.octets o).map₂ hread (Blink.mk b.flags)

end Blink

end UwbRanging
