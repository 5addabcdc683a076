import Mathlib.Algebra.Group.Int.Defs
import UwbRanging.Message.Basic
import UwbRanging.Proofs.Frame.Timestamp
import UwbRanging.Proofs.Text.Hex

namespace UwbRanging

namespace Timespec

section OfNanos

variable (ns : UInt64)

theorem sec_ofNanos : (ofNanos ns).sec.toInt = ns.toNat / 1000000000 := by
  have hlt := ns.toNat_lt
  exact Int64.toInt_ofNat_of_lt (by omega)

theorem nsec_ofNanos : (ofNanos ns).nsec.toInt = ns.toNat % 1000000000 := by
  have hlt : ns.toNat % 1000000000 < 1000000000 := Nat.mod_lt _ (by decide)
  exact Int64.toInt_ofNat_of_lt (by omega)

theorem nanos_ofNanos : (ofNanos ns).nanos = ns.toNat := by
  rw [nanos, sec_ofNanos, nsec_ofNanos]
  omega

-- Whole nanoseconds that were spread over seconds are put together again.
theorem wholeNanos_ofNanos : (ofNanos ns).wholeNanos = ns := by
  have hlt : (ns.toNat : Int) < UInt64.size := Int.ofNat_lt.mpr ns.toNat_lt
  rw [wholeNanos, nanos_ofNanos, if_pos ⟨Int.natCast_nonneg _, hlt⟩, Int.toNat_natCast, UInt64.ofNat_toNat]

end OfNanos

variable {t : Timespec}

theorem toNat_wholeNanos (hlow : 0 ≤ t.nanos) (hhigh : t.nanos < 2 ^ 64) : (t.wholeNanos.toNat : Int) = t.nanos := by
  have hsize : (UInt64.size : Int) = 2 ^ 64 := rfl
  have hlt : t.nanos.toNat < UInt64.size := by omega
  rw [wholeNanos, if_pos ⟨hlow, hhigh⟩, UInt64.toNat_ofNat_of_lt' hlt, Int.toNat_of_nonneg hlow]

theorem wholeNanos_eq_zero (h : t.nanos < 0 ∨ 2 ^ 64 ≤ t.nanos) : t.wholeNanos = 0 := by
  have hsize : (UInt64.size : Int) = 2 ^ 64 := rfl
  rw [wholeNanos, if_neg (by omega)]

-- What becomes of a time that is reported in whole nanoseconds and read again.
structure ReadsAs (t back : Timespec) : Prop where
  -- seconds and nanoseconds of either sign may make up a time, but only one pair is read
  sec : 0 ≤ back.sec.toInt
  nsec : 0 ≤ back.nsec.toInt ∧ back.nsec.toInt < 1000000000
  same : 0 ≤ t.nanos → t.nanos < 2 ^ 64 → back.nanos = t.nanos
  -- a time before zero is lost, and so is one that is too late for a word
  lost : t.nanos < 0 ∨ 2 ^ 64 ≤ t.nanos → back = {}

variable (t) in
theorem readsAs_ofNanos : t.ReadsAs (ofNanos t.wholeNanos) where
  sec := by
    rw [sec_ofNanos]
    omega
  nsec := by
    rw [nsec_ofNanos]
    omega
  same hlow hhigh := by rw [nanos_ofNanos, toNat_wholeNanos hlow hhigh]
  lost h := by
    rw [wholeNanos_eq_zero h]
    rfl

end Timespec

-- What is left of a timestamp that came in a report.
structure HardwareTimestamp.ReadsAs (ts back : HardwareTimestamp) : Prop where
  hires : back.hires = ts.hires
  -- the whole block, and so the radio counter and whether the frame was sent or received
  info : back.info = ts.info
  direction : back.direction = ts.direction
  -- the one time that a report has no place for
  legacy : back.legacy = {}
  sw : ts.sw.ReadsAs back.sw
  hw : ts.hw.ReadsAs back.hw

namespace TimestampReport

-- A report has room for a high-resolution time of any value.
theorem toNat_hires (anchor : Eui64) (src : Option Eui64) (ts : HardwareTimestamp) (frame : List UInt8) :
    (ofTimestamp anchor src ts frame).hires.toNat = ts.hires.value := by
  have hlt := ts.hires.value_lt
  exact (BitVec.toNat_ofNat _ _).trans (Nat.mod_eq_of_lt (by omega))

-- What a report tells is told again by a report on it.
theorem timestamp_ofTimestamp_timestamp (r : TimestampReport) (anchor : Eui64) (src : Option Eui64)
    (frame : List UInt8) : (ofTimestamp anchor src r.timestamp frame).timestamp = r.timestamp := by
  have hsw : (ofTimestamp anchor src r.timestamp frame).swts = r.swts := Timespec.wholeNanos_ofNanos _
  have hhw : (ofTimestamp anchor src r.timestamp frame).hwts = r.hwts := Timespec.wholeNanos_ofNanos _
  rw [timestamp, hsw, hhw, toNat_hires, Hires.ofValue_value]
  rfl

theorem hires_timestamp (anchor : Eui64) (src : Option Eui64) (ts : HardwareTimestamp) (frame : List UInt8) :
    (ofTimestamp anchor src ts frame).timestamp.hires = ts.hires := by
  rw [timestamp, toNat_hires, Hires.ofValue_value]

-- What a report tells is enough to make the same report again.
theorem ofTimestamp_timestamp (anchor : Eui64) (src : Option Eui64) (ts : HardwareTimestamp) (frame : List UInt8) :
    ofTimestamp anchor src (ofTimestamp anchor src ts frame).timestamp frame = ofTimestamp anchor src ts frame := by
  rw [ofTimestamp, hires_timestamp]
  simp only [timestamp, ofTimestamp, Timespec.wholeNanos_ofNanos]

theorem frameBytes_ofTimestamp (anchor : Eui64) (src : Option Eui64) (ts : HardwareTimestamp) (frame : List UInt8) :
    (ofTimestamp anchor src ts frame).frameBytes = .ok frame := by
  rw [frameBytes, ofTimestamp, Hex.decode_encode]

theorem readsAs_ofTimestamp (anchor : Eui64) (src : Option Eui64) (ts : HardwareTimestamp) (frame : List UInt8) :
    ts.ReadsAs (ofTimestamp anchor src ts frame).timestamp where
  hires := hires_timestamp anchor src ts frame
  info := rfl
  direction := rfl
  legacy := rfl
  sw := ts.sw.readsAs_ofNanos
  hw := ts.hw.readsAs_ofNanos

-- Of any timestamp a report tells all but the legacy time and the times that its words cannot hold, and gives the
-- frame back. What any report tells, whoever made it, survives being reported again.
theorem timestamp_carried :
    (∀ (anchor : Eui64) (src : Option Eui64) (ts : HardwareTimestamp) (frame : List UInt8),
      let r := ofTimestamp anchor src ts frame
      r.anchor = anchor ∧ r.src = src ∧ r.frameBytes = .ok frame ∧ ts.ReadsAs r.timestamp ∧
      ofTimestamp anchor src r.timestamp frame = r) ∧
    ∀ r : TimestampReport,
      r.timestamp.hires.value = r.hires.toNat % 2 ^ 96 ∧
      ∀ (anchor : Eui64) (src : Option Eui64) (frame : List UInt8),
        (ofTimestamp anchor src r.timestamp frame).timestamp = r.timestamp := by
  refine ⟨fun anchor src ts frame => ?_, fun r => ?_⟩
  · exact ⟨rfl, rfl, frameBytes_ofTimestamp anchor src ts frame, readsAs_ofTimestamp anchor src ts frame,
      ofTimestamp_timestamp anchor src ts frame⟩
  · exact ⟨Hires.value_ofValue _, r.timestamp_ofTimestamp_timestamp⟩

end TimestampReport

end UwbRanging
