import UwbRanging.Wire.LittleEndian
import UwbRanging.Decimal.Binary64

namespace UwbRanging

-- Seconds and nanoseconds as the kernel gives them. Both are signed and need not be normalised.
structure Timespec where
  sec : Int64 := 0
  nsec : Int64 := 0
  deriving DecidableEq, Repr, Inhabited

namespace Timespec

def nanos (t : Timespec) : Int := t.sec.toInt * 1000000000 + t.nsec.toInt

def secs (t : Timespec) : Float := Binary64.ofInt t.sec.toInt + Binary64.ofInt t.nsec.toInt * 1e-9

end Timespec

-- A high-resolution radio time: whole nanoseconds and a binary fraction of 32 bits.
structure Hires where
  nsec : UInt64 := 0
  frac : UInt32 := 0
  deriving DecidableEq, Repr, Inhabited

namespace Hires

-- The time in counts of 2^-32 ns.
def value (h : Hires) : Nat := h.nsec.toNat * 4294967296 + h.frac.toNat

-- Counts of more than 96 bits do not fit and lose their high bits.
def ofValue (v : Nat) : Hires := ⟨UInt64.ofNat (v / 4294967296), UInt32.ofNat v⟩

@[simp] theorem ofValue_value (h : Hires) : ofValue h.value = h := by
  have hf := h.frac.toNat_lt
  have hdiv : h.value / 4294967296 = h.nsec.toNat := by
    rw [value]
    omega
  have hmod : UInt32.ofNat h.value = h.frac := by
    apply UInt32.toNat_inj.mp
    have h32 : (UInt32.ofNat h.value).toNat = h.value % 2 ^ 32 := UInt32.toNat_ofNat'
    rw [value] at h32 ⊢
    omega
  rw [ofValue, hdiv, hmod, UInt64.ofNat_toNat]

end Hires

-- The radio counter has 40 bits.
def counterRange : Nat := 0x10000000000

def counterMask : UInt64 := 0xffffffffff

-- The diagnostic block that the radio attaches to a frame.
structure Diagnostics where
  -- the radio counter
  rawts : UInt64 := 0
  -- link quality, zero for a frame that was sent
  lqi : UInt16 := 0
  snr : UInt16 := 0
  fpr : UInt16 := 0
  noise : UInt16 := 0
  rxpacc : UInt16 := 0
  fpIndex : UInt16 := 0
  fpAmpl1 : UInt16 := 0
  fpAmpl2 : UInt16 := 0
  fpAmpl3 : UInt16 := 0
  cirPwr : UInt32 := 0
  fpPwr : UInt32 := 0
  ttcko : UInt32 := 0
  ttcki : UInt32 := 0
  temp : Int16 := 0
  volt : Int16 := 0
  deriving DecidableEq, Repr, Inhabited

inductive Direction where
  | tx
  | rx
  deriving DecidableEq, Repr

-- All that the kernel tells about the time of one frame.
structure HardwareTimestamp where
  sw : Timespec := {}
  legacy : Timespec := {}
  hw : Timespec := {}
  hires : Hires := {}
  info : Diagnostics := {}
  deriving DecidableEq, Repr, Inhabited

namespace HardwareTimestamp

def direction (ts : HardwareTimestamp) : Direction := if ts.info.lqi = 0 then .tx else .rx

def isRx (ts : HardwareTimestamp) : Bool := ts.direction == .rx

end HardwareTimestamp

end UwbRanging
