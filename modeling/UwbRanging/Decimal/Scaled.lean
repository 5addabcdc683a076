import UwbRanging.Decimal.Literal

namespace UwbRanging.Decimal

-- Takes up digits after `n` as long as the number that they spell fits a word of 64 bits: that
-- number, and the digits left over.
def takeWord : (n : Nat) → List Char → Nat × List Char
  | n, [] => (n, [])
  | n, c :: rest =>
    if 10 * n + digitValue c < UInt64.size then takeWord (10 * n + digitValue c) rest else (n, c :: rest)

namespace Literal

-- A literal of the digits that fit a word. Each digit left over before the point is a power of ten,
-- and those behind the point are dropped.
def clipped (negative : Bool) (whole fraction : List Char) (exponent : Int) : Literal :=
  let (n, beyond) := takeWord 0 whole
  let (n, dropped) := takeWord n fraction
  ⟨negative, n, exponent + beyond.length - (fraction.length - dropped.length : Nat)⟩

-- The digits as a float, times or over a power of ten that is a float too. It takes one operation
-- where `magnitude` computes exactly, and it is off by a bit where digits or power are not exact.
-- Powers go up to 10^308: smaller numbers are divided twice, and larger ones are refused.
def scaledMagnitude? (l : Literal) : Option Float :=
  let x := Binary64.ofNat l.digits
  let power := fun (e : Int) => Binary64.ofNat (tenTo e.toNat)
  if l.digits = 0 ∨ l.exponent < -616 then some 0.0
  else if l.exponent < -308 then some (x / power 308 / power (-l.exponent - 308))
  else if l.exponent < 0 then some (x / power (-l.exponent))
  else if 308 < l.exponent then none
  else
    let y := x * power l.exponent
    if y.isInf then none else some y

def scaled? (l : Literal) : Option Float :=
  l.scaledMagnitude?.map fun x => if l.negative then -x else x

end Literal

end UwbRanging.Decimal
