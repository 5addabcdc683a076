import UwbRanging.Decimal.Literal
import UwbRanging.Text.Character

namespace UwbRanging

-- An attribute of a radio. The names are those of the radio daemon.
inductive DeviceAttr where
  | channel
  | prf
  | pcode
  | txpsr
  | rate
  | smartPower
  | txPower
  | xtalt
  | antd
  | profile
  | snrThreshold
  | fprThreshold
  | noiseThreshold
  deriving DecidableEq, Repr

-- The value of an attribute as it travels: an integer, or a text for register-like attributes.
inductive AttrValue where
  | int (n : Int64)
  | text (s : String)
  deriving DecidableEq, Repr

namespace AttrValue

-- The value of an ASCII hexadecimal digit.
def hexDigit? (c : Char) : Option Nat := if c.toNat < 0x80 then Hex.digitValue? (UInt8.ofNat c.toNat) else none

-- An integer of hexadecimal digits with an optional sign.
def readHex (cs : List Char) : Option Int := do
  let (negative, body) := Decimal.spanSign cs
  if body.isEmpty then none
  let digits ← body.mapM hexDigit?
  let n : Int := (digits.foldl (fun n d => 16 * n + d) 0 : Nat)
  return if negative then -n else n

-- An integer in decimal, or in hexadecimal after its mark.
def readInteger : List Char → Option Int
  | '0' :: 'x' :: rest => readHex rest
  | '0' :: 'X' :: rest => readHex rest
  | cs => Decimal.readInt cs

-- An integer that a value of 64 bits can hold.
def narrow64 (n : Int) : Option Int64 :=
  if Int64.minValue.toInt ≤ n ∧ n ≤ Int64.maxValue.toInt then some (Int64.ofInt n) else none

-- The value as a number, where it is one or spells one.
def asInt : AttrValue → Option Int64
  | int n => some n
  | text s => (readInteger (Text.trimChars s.toList)).bind narrow64

-- The value as a text.
def toText : AttrValue → String
  | int n => toString n.toInt
  | text s => s

end AttrValue

-- A value that an attribute cannot take.
structure InvalidValue where
  attr : DeviceAttr
  value : String
  deriving DecidableEq, Repr

namespace DeviceAttr

def all : List DeviceAttr := [channel, prf, pcode, txpsr, rate, smartPower, txPower, xtalt, antd, profile,
  snrThreshold, fprThreshold, noiseThreshold]

-- The attributes that a device's summary shows.
def summary : List DeviceAttr := [channel, prf, pcode, txpsr, rate, smartPower, txPower, xtalt, antd]

def name : DeviceAttr → String
  | channel => "channel"
  | prf => "prf"
  | pcode => "pcode"
  | txpsr => "txpsr"
  | rate => "rate"
  | smartPower => "smart_power"
  | txPower => "tx_power"
  | xtalt => "xtalt"
  | antd => "antd"
  | profile => "profile"
  | snrThreshold => "snr_threshold"
  | fprThreshold => "fpr_threshold"
  | noiseThreshold => "noise_threshold"

def ofName (name : String) : Option DeviceAttr := all.find? fun a => a.name == name

-- The numbers that an attribute is restricted to, if it is restricted to a few.
def allowed? : DeviceAttr → Option (List Int64)
  | channel => some [1, 2, 3, 4, 5, 7]
  | prf => some [16, 64]
  | rate => some [110, 850, 6800]
  | txpsr => some [64, 128, 256, 512, 1024, 1536, 2048, 4096]
  | _ => none

-- The text of a register of 32 bits.
def registerText (n : Nat) : String := "0x" ++ Hex.padded 8 n

-- Checks a value and brings it into the form in which it is sent: a number from the allowed ones, or
-- the text of the power register. Other attributes take any value as it is.
def validate (attr : DeviceAttr) (value : AttrValue) : Except InvalidValue AttrValue :=
  let refused : Except InvalidValue AttrValue := .error ⟨attr, value.toText⟩
  match attr.allowed? with
  | some allowed =>
    match value.asInt with
    | some n => if n ∈ allowed then .ok (.int n) else refused
    | none => refused
  | none =>
    if attr = txPower then
      match value.asInt with
      | some n =>
        if 0 ≤ n.toInt ∧ n.toInt < UInt32.size then .ok (.text (registerText n.toInt.toNat)) else refused
      | none => refused
    else .ok value

end DeviceAttr

end UwbRanging
