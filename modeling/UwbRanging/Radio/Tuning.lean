import UwbRanging.Radio.Config

namespace UwbRanging

-- Actions on the settings of a radio in use. What an action has changed before it fails stays changed.
abbrev Tuning := ExceptT InvalidValue (StateM RadioConfig)

namespace Tuning

-- What is needed to go on.
def require {α : Type} (refusal : InvalidValue) : Option α → Tuning α
  | some a => pure a
  | none => throw refusal

-- Puts a number into its place in the settings.
def putNumber (refusal : InvalidValue) (value : AttrValue) (put : RadioConfig → Int64 → RadioConfig) : Tuning Unit := do
  let n ← require refusal value.asInt
  modify fun r => put r n

-- Puts a number into a register of `size` values.
def putRegister (refusal : InvalidValue) (value : AttrValue) (size : Nat) (put : RadioConfig → Nat → RadioConfig) :
    Tuning Unit := do
  let n ← require refusal value.asInt
  let n ← require refusal (RadioConfig.narrow size n)
  modify fun r => put r n

-- Puts a value into the register of an attribute, or fails if the register cannot hold it.
def write (attr : DeviceAttr) (value : AttrValue) : Tuning Unit :=
  let number := putNumber ⟨attr, value.toText⟩ value
  let register := putRegister ⟨attr, value.toText⟩ value
  match attr with
  | .channel => register UInt8.size fun r n => { r with channel := UInt8.ofNat n }
  | .prf => register UInt32.size fun r n => { r with prf := UInt32.ofNat n }
  | .pcode => register UInt8.size fun r n => { r with pcode := UInt8.ofNat n }
  | .txpsr => register UInt32.size fun r n => { r with txpsr := UInt32.ofNat n }
  | .rate => register UInt32.size fun r n => { r with rate := UInt32.ofNat n }
  | .smartPower => number fun r n => { r with smartPower := n != 0 }
  | .txPower => register UInt32.size fun r n => { r with txPower := UInt32.ofNat n }
  | .xtalt => register UInt8.size fun r n => { r with xtalt := UInt8.ofNat n }
  | .antd => register UInt16.size fun r n => { r with antd := UInt16.ofNat n }
  | .profile => modify fun r => { r with profile := value.toText }
  | .snrThreshold => number fun r n => { r with snrThreshold := n }
  | .fprThreshold => number fun r n => { r with fprThreshold := n }
  | .noiseThreshold => number fun r n => { r with noiseThreshold := n }

-- Checks a value, puts it into effect and gives the value that is then in effect.
def assign (attr : DeviceAttr) (value : AttrValue) : Tuning AttrValue := do
  let value ← MonadExcept.ofExcept (attr.validate value)
  write attr value
  return (← get).get attr

-- The settings after some attributes have been set one after the other, whether they were refused or not.
def assignAll (changes : List (DeviceAttr × AttrValue)) (r : RadioConfig) : RadioConfig :=
  changes.foldl (fun r change => (assign change.1 change.2 r).2) r

end Tuning

end UwbRanging
