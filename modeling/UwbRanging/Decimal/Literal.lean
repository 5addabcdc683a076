import UwbRanging.Decimal.Binary64

namespace UwbRanging.Decimal

-- The number that a one with `places` zeros spells.
def tenTo : (places : Nat) → Nat
  | 0 => 1
  | places + 1 => 10 * tenTo places

-- The value of an ASCII decimal digit.
def digitValue (c : Char) : Nat := c.toNat - '0'.toNat

-- The number that a run of decimal digits spells.
def ofDigits (cs : List Char) : Nat := cs.foldl (fun n c => 10 * n + digitValue c) 0

-- The digits in front, and what follows them.
def spanDigits (cs : List Char) : List Char × List Char := (cs.takeWhile Char.isDigit, cs.dropWhile Char.isDigit)

-- An optional sign in front: whether it is a minus, and what follows it.
def spanSign : List Char → Bool × List Char
  | '-' :: rest => (true, rest)
  | '+' :: rest => (false, rest)
  | cs => (false, cs)

-- An integer of plain digits with an optional sign.
def readInt (cs : List Char) : Option Int :=
  let (negative, body) := spanSign cs
  if body.isEmpty ∨ ¬ body.all Char.isDigit then none
  else some (if negative then -(ofDigits body : Int) else ofDigits body)

-- A natural number of plain digits. A plus sign may stand in front.
def readNat (cs : List Char) : Option Nat :=
  let body := match cs with
    | '+' :: rest => rest
    | cs => cs
  if body.isEmpty ∨ ¬ body.all Char.isDigit then none else some (ofDigits body)

-- A decimal number `digits * 10 ^ exponent` with a sign, which zero has too.
structure Literal where
  negative : Bool
  digits : Nat
  exponent : Int
  deriving DecidableEq, Repr

namespace Literal

-- The nearest binary64 number to the magnitude. Powers of ten far outside the range of binary64
-- are not computed.
def magnitude (l : Literal) : Float :=
  let places : Int := (Nat.toDigits 10 l.digits).length
  if l.digits = 0 ∨ places + l.exponent < -400 then 0.0
  else if 400 < places + l.exponent then Float.ofBits (UInt64.ofNat Binary64.infinityBits)
  else if 0 ≤ l.exponent then Binary64.ofRatio (l.digits * tenTo l.exponent.toNat) 1
  else Binary64.ofRatio l.digits (tenTo (-l.exponent).toNat)

def toFloat (l : Literal) : Float := if l.negative then -l.magnitude else l.magnitude

-- Digits with an optional point and an optional exponent. Digits may miss on one side of the point.
def read (cs : List Char) : Option Literal := do
  let (negative, body) := spanSign cs
  let (whole, rest) := spanDigits body
  let (fraction, rest) := match rest with
    | '.' :: rest => spanDigits rest
    | rest => ([], rest)
  if whole.isEmpty ∧ fraction.isEmpty then none
  let exponent ← match rest with
    | [] => some 0
    | 'e' :: rest => readInt rest
    | 'E' :: rest => readInt rest
    | _ => none
  return ⟨negative, ofDigits (whole ++ fraction), exponent - fraction.length⟩

end Literal

-- A floating point number: a decimal literal, or the name of an infinity or of what is no number,
-- in letters of any case and with an optional sign.
def readFloat (cs : List Char) : Option Float :=
  let (negative, body) := spanSign cs
  let signed := fun (x : Float) => if negative then -x else x
  match String.ofList (body.map Char.toLower) with
  | "inf" => some (signed (1.0 / 0.0))
  | "infinity" => some (signed (1.0 / 0.0))
  | "nan" => some (0.0 / 0.0)
  | _ => (Literal.read cs).map Literal.toFloat

end UwbRanging.Decimal
