import Mathlib.Algebra.Group.Nat.Defs
import Mathlib.Data.List.Induction
import UwbRanging.Frame.TimestampLayout

namespace UwbRanging

namespace Hires

theorem value_lt (h : Hires) : h.value < 2 ^ 96 := by
  have hnsec := h.nsec.toNat_lt
  have hfrac := h.frac.toNat_lt
  rw [value]
  omega

theorem value_ofValue (v : Nat) : (ofValue v).value = v % 2 ^ 96 := by
  have hnsec : (UInt64.ofNat (v / 4294967296)).toNat = v / 4294967296 % 2 ^ 64 := UInt64.toNat_ofNat'
  have hfrac : (UInt32.ofNat v).toNat = v % 2 ^ 32 := UInt32.toNat_ofNat'
  rw [value, ofValue, hnsec, hfrac]
  omega

end Hires

namespace TimestampLayout

-- A field behind a front part is a field of what follows that part.
theorem field_append (front back : List UInt8) (offset width : Nat) (hfront : front.length ≤ offset) :
    field (front ++ back) offset width = field back (offset - front.length) width := by
  rw [field, field, List.drop_append, List.drop_of_length_le hfront, List.nil_append]

theorem field_encode (width value : Nat) (back : List UInt8) :
    field (LittleEndian.encode width value ++ back) 0 width = value % LittleEndian.span width := by
  have hlength := LittleEndian.length_encode width value
  rw [field, List.drop_zero, List.take_left' hlength, LittleEndian.decode_encode]

-- Words of their full width lose nothing.
theorem ofNat_mod_span_u16 (v : UInt16) : UInt16.ofNat (v.toNat % LittleEndian.span 2) = v := by
  have hv : v.toNat < LittleEndian.span 2 := v.toNat_lt
  rw [Nat.mod_eq_of_lt hv, UInt16.ofNat_toNat]

theorem ofNat_mod_span_u32 (v : UInt32) : UInt32.ofNat (v.toNat % LittleEndian.span 4) = v := by
  have hv : v.toNat < LittleEndian.span 4 := v.toNat_lt
  rw [Nat.mod_eq_of_lt hv, UInt32.ofNat_toNat]

theorem ofNat_mod_span_u64 (v : UInt64) : UInt64.ofNat (v.toNat % LittleEndian.span 8) = v := by
  have hv : v.toNat < LittleEndian.span 8 := v.toNat_lt
  rw [Nat.mod_eq_of_lt hv, UInt64.ofNat_toNat]

-- Some places of the data in a row. A place behind the end of the data holds zero.
def bytesAt (data : List UInt8) (offset width : Nat) : List UInt8 :=
  (List.range' offset width).map fun place => data.getD place 0

-- The places at which no field stands.
def isUnused (place : Nat) : Bool := (60 ≤ place && place < 64) || (90 ≤ place && place < 92)

-- What the layout keeps of data of any length: as many bytes as it has places, zero where the data has no byte and
-- where no field stands.
def kept (data : List UInt8) : List UInt8 :=
  (List.range size).map fun place => if isUnused place then 0 else data.getD place 0

section Rewriting

variable (data : List UInt8) (offset width : Nat)

theorem field_succ :
    field data offset (width + 1) = (data.getD offset 0).toNat + 256 * field data (offset + 1) width := by
  unfold field
  by_cases h : offset < data.length
  · rw [List.drop_eq_getElem_cons h, List.take_succ_cons, LittleEndian.decode]
    simp [h]
  · have hend : data.length ≤ offset := Nat.le_of_not_lt h
    rw [List.drop_of_length_le hend, List.drop_of_length_le (Nat.le_succ_of_le hend)]
    simp [hend, LittleEndian.decode]

-- A field is written as it was read.
theorem encode_field : LittleEndian.encode width (field data offset width) = bytesAt data offset width := by
  induction width generalizing offset with
  | zero => rfl
  | succ width ih => rw [field_succ, LittleEndian.encode_succ, ih, bytesAt, bytesAt, List.range'_succ, List.map_cons]

theorem encode_u16 : LittleEndian.encode 2 (u16 data offset).toNat = bytesAt data offset 2 := by
  have h : (u16 data offset).toNat = field data offset 2 % LittleEndian.span 2 := UInt16.toNat_ofNat'
  rw [h, LittleEndian.encode_mod, encode_field]

theorem encode_u32 : LittleEndian.encode 4 (u32 data offset).toNat = bytesAt data offset 4 := by
  have h : (u32 data offset).toNat = field data offset 4 % LittleEndian.span 4 := UInt32.toNat_ofNat'
  rw [h, LittleEndian.encode_mod, encode_field]

theorem encode_u64 : LittleEndian.encode 8 (u64 data offset).toNat = bytesAt data offset 8 := by
  have h : (u64 data offset).toNat = field data offset 8 % LittleEndian.span 8 := UInt64.toNat_ofNat'
  rw [h, LittleEndian.encode_mod, encode_field]

theorem encode_i16 : LittleEndian.encode 2 (i16 data offset).toUInt16.toNat = bytesAt data offset 2 := by
  rw [i16, UInt16.toUInt16_toInt16, encode_u16]

-- In each part of the layout the fields follow one another, and the unused bytes become zero.
theorem timespecBytes_timespec : timespecBytes (timespec data offset) = bytesAt data offset 16 := by
  simp only [timespecBytes, timespec, UInt64.toUInt64_toInt64, encode_u64]
  rfl

theorem hiresBytes_hires : hiresBytes (hires data offset) = bytesAt data offset 12 ++ List.replicate 4 0 := by
  simp only [hiresBytes, hires, encode_u64, encode_u32]
  rfl

theorem diagnosticsBytes_diagnostics : diagnosticsBytes (diagnostics data offset) =
    bytesAt data offset 26 ++ (List.replicate 2 0 ++ bytesAt data (offset + 28) 20) := by
  simp only [diagnosticsBytes, diagnostics, List.flatMap_cons, List.flatMap_nil, List.append_nil, encode_u64,
    encode_u32, encode_u16, encode_i16]
  rfl

end Rewriting

end TimestampLayout

namespace HardwareTimestamp

open TimestampLayout

-- Every field stands where it is looked for. What follows the layout does not matter.
theorem ofBytes_toBytes_append (ts : HardwareTimestamp) (tail : List UInt8) : ofBytes (ts.toBytes ++ tail) = ts := by
  simp (disch := simp) only [ofBytes, toBytes, timespec, timespecBytes, TimestampLayout.hires, hiresBytes,
    diagnostics, diagnosticsBytes, u64, u32, u16, i16, List.append_assoc, List.flatMap_cons, List.flatMap_nil,
    List.nil_append, field_append, field_encode, LittleEndian.length_encode, Nat.reduceSub, Nat.reduceAdd,
    Nat.sub_self, Nat.zero_add, ofNat_mod_span_u16, ofNat_mod_span_u32, ofNat_mod_span_u64,
    Int64.toInt64_toUInt64, Int16.toInt16_toUInt16]

theorem ofBytes_toBytes (ts : HardwareTimestamp) : ofBytes ts.toBytes = ts := by
  have h := ts.ofBytes_toBytes_append []
  rwa [List.append_nil] at h

theorem length_toBytes (ts : HardwareTimestamp) : ts.toBytes.length = 112 := by
  simp [toBytes, timespecBytes, hiresBytes, diagnosticsBytes]

-- What is read is written again as it was, as far as the layout keeps it.
theorem toBytes_ofBytes (data : List UInt8) : (ofBytes data).toBytes = kept data := by
  simp only [toBytes, ofBytes, timespecBytes_timespec, hiresBytes_hires, diagnosticsBytes_diagnostics]
  rfl

theorem ofAncillary_timestamping (ts : HardwareTimestamp) : ofAncillary [ControlMessage.timestamping ts] = some ts := by
  have h : ofAncillary [ControlMessage.timestamping ts] = some (ofBytes ts.toBytes) := rfl
  rw [h, ofBytes_toBytes]

theorem isTimestamping_iff {m : ControlMessage} : m.isTimestamping = true ↔ m.level = 1 ∧ m.kind = 37 := by
  simp [ControlMessage.isTimestamping, ControlMessage.socketLevel, ControlMessage.timestampKind]

-- A further message takes the place of what was found before if it carries a timestamp.
theorem ofAncillary_concat (messages : List ControlMessage) (m : ControlMessage) : ofAncillary (messages ++ [m]) =
    if m.level = 1 ∧ m.kind = 37 then some (ofBytes m.data) else ofAncillary messages := by
  simp only [ofAncillary, List.filter_append, ← isTimestamping_iff]
  cases h : m.isTimestamping <;> simp [h]

theorem ofAncillary_eq_none_iff {messages : List ControlMessage} :
    ofAncillary messages = none ↔ ∀ m ∈ messages, ¬ (m.level = 1 ∧ m.kind = 37) := by
  induction messages using List.reverseRecOn with
  | nil => simp [ofAncillary]
  | append_singleton messages last ih =>
    rw [ofAncillary_concat]
    by_cases h : last.level = 1 ∧ last.kind = 37
    · simp only [if_pos h, reduceCtorEq, false_iff]
      exact fun hall => hall last (by simp) h
    · rw [if_neg h, ih, List.forall_mem_append, List.forall_mem_singleton]
      exact ⟨fun hall => ⟨hall, h⟩, And.left⟩

-- By induction on what comes after the message, from its end.
theorem ofAncillary_of_last (before : List ControlMessage) {m : ControlMessage} {after : List ControlMessage}
    (hm : m.level = 1 ∧ m.kind = 37) (hafter : ∀ other ∈ after, ¬ (other.level = 1 ∧ other.kind = 37)) :
    ofAncillary (before ++ m :: after) = some (ofBytes m.data) := by
  induction after using List.reverseRecOn with
  | nil => rw [ofAncillary_concat, if_pos hm]
  | append_singleton after last ih =>
    obtain ⟨hafter, hlast⟩ := List.forall_mem_append.mp hafter
    rw [← List.cons_append, ← List.append_assoc, ofAncillary_concat, if_neg (hlast last List.mem_cons_self), ih hafter]

-- A timestamp fills the kernel's layout and is read from it again, whatever follows it. Data of any length is
-- written as the layout keeps it. Among messages the last one that carries a timestamp counts.
theorem layout_faithful :
    (∀ ts : HardwareTimestamp, ts.toBytes.length = 112 ∧ ∀ tail, ofBytes (ts.toBytes ++ tail) = ts) ∧
    (∀ data, (ofBytes data).toBytes = kept data) ∧
    (∀ messages, ofAncillary messages = none ↔ ∀ m ∈ messages, ¬ (m.level = 1 ∧ m.kind = 37)) ∧
    ∀ (before : List ControlMessage) (m : ControlMessage) (after : List ControlMessage), m.level = 1 ∧ m.kind = 37 →
      (∀ other ∈ after, ¬ (other.level = 1 ∧ other.kind = 37)) →
      ofAncillary (before ++ m :: after) = some (ofBytes m.data) :=
  ⟨fun ts => ⟨ts.length_toBytes, ts.ofBytes_toBytes_append⟩, toBytes_ofBytes, fun _ => ofAncillary_eq_none_iff,
    fun before _ _ => ofAncillary_of_last before⟩

-- The data ends within the unused bytes, and stands between an older timestamp and a message of another kind.
theorem layout_faithful_shortData :
    let data := List.replicate 62 1
    ∃ ts, ofAncillary [⟨1, 37, [2, 2]⟩, ⟨1, 37, data⟩, ⟨1, 29, [3]⟩] = some ts ∧
      ts.toBytes = List.replicate 60 1 ++ List.replicate 52 0 := by
  intro data
  obtain ⟨-, hkept, -, hlast⟩ := layout_faithful
  exact ⟨ofBytes data, hlast [⟨1, 37, [2, 2]⟩] ⟨1, 37, data⟩ [⟨1, 29, [3]⟩] (by decide) (by decide),
    (hkept data).trans (by decide)⟩

end HardwareTimestamp

end UwbRanging
