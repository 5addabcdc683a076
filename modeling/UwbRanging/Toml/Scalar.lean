import UwbRanging.Decimal.Literal
import UwbRanging.Radio.Attribute
import UwbRanging.Toml.Basic

namespace UwbRanging.Toml

-- Numbers, dates and the names of truth values and special numbers are runs of these characters.
def isTokenChar (c : Char) : Bool :=
  c.isAlphanum || c == '_' || c == '+' || c == '-' || c == '.' || c == ':'

-- Digits in which single underscores may stand between digits, without the underscores.
def digitRun (isDigit : Char → Bool) : List Char → Option (List Char)
  | [] => none
  | c :: rest =>
    if isDigit c then
      match rest with
      | [] => some [c]
      | '_' :: more => (digitRun isDigit more).map (c :: ·)
      | more => (digitRun isDigit more).map (c :: ·)
    else none

-- An integer's digits: no leading zero unless it is the only digit.
def wholeRun (cs : List Char) : Option (List Char) :=
  match cs with
  | '0' :: _ :: _ => none
  | cs => digitRun Char.isDigit cs

def narrow64 (n : Int) : Option Toml :=
  if Int64.minValue.toInt ≤ n ∧ n ≤ Int64.maxValue.toInt then some (int n) else none

-- The number of digits of a base up to 16.
def ofBase (base : Nat) (digits : List Char) : Nat :=
  digits.foldl (fun n c => base * n + (AttrValue.hexDigit? c).getD 0) 0

def isDigitOf (base : Nat) (c : Char) : Bool := (AttrValue.hexDigit? c).any (· < base)

-- An integer of 64 bits: decimal with an optional sign, or with the mark of another base.
def integer? (token : List Char) : Option Toml :=
  let based := fun base rest => (digitRun (isDigitOf base) rest).bind fun digits => narrow64 (ofBase base digits)
  match token with
  | '0' :: 'x' :: rest => based 16 rest
  | '0' :: 'o' :: rest => based 8 rest
  | '0' :: 'b' :: rest => based 2 rest
  | token => do
    let (negative, body) := Decimal.spanSign token
    let n := Decimal.ofDigits (← wholeRun body)
    narrow64 (if negative then -n else n)

-- The parts of a token around the first character that satisfies `p`.
def splitAt (p : Char → Bool) (cs : List Char) : List Char × Option (List Char) :=
  match cs.dropWhile fun c => !p c with
  | [] => (cs, none)
  | _ :: rest => (cs.takeWhile fun c => !p c, some rest)

def isExponentMark (c : Char) : Bool := c == 'e' || c == 'E'

def exponent? (cs : List Char) : Option Int := do
  let (negative, body) := Decimal.spanSign cs
  let n := Decimal.ofDigits (← digitRun Char.isDigit body)
  return if negative then -(n : Int) else n

-- A decimal number with a fraction, an exponent, or both.
def decimal? (negative : Bool) (body : List Char) : Option Decimal.Literal := do
  let (mantissa, e) := splitAt isExponentMark body
  let (whole, fraction) := splitAt (· == '.') mantissa
  if e.isNone ∧ fraction.isNone then none
  let whole ← wholeRun whole
  let fraction ← match fraction with
    | none => some []
    | some digits => digitRun Char.isDigit digits
  let e ← match e with
    | none => some 0
    | some digits => exponent? digits
  return ⟨negative, Decimal.ofDigits (whole ++ fraction), e - fraction.length⟩

-- A floating point number. One too large for the format is refused if it is positive.
def floating? (token : List Char) : Option Toml :=
  let (negative, body) := Decimal.spanSign token
  if body = ['i', 'n', 'f'] then some (float (if negative then -1.0 / 0.0 else 1.0 / 0.0))
  else if body = ['n', 'a', 'n'] then some (float (0.0 / 0.0))
  else
    match (decimal? negative body).map Decimal.Literal.toFloat with
    | some x => if x.isInf && !negative then none else some (float x)
    | none => none

-- A number of exactly `width` digits within bounds.
def bounded? (width low high : Nat) (cs : List Char) : Option Nat :=
  let n := Decimal.ofDigits cs
  if cs.length = width ∧ cs.all Char.isDigit ∧ low ≤ n ∧ n ≤ high then some n else none

def daysOf (year month : Nat) : Nat :=
  if month = 2 then (if year % 4 = 0 ∧ (year % 100 ≠ 0 ∨ year % 400 = 0) then 29 else 28)
  else if month = 4 ∨ month = 6 ∨ month = 9 ∨ month = 11 then 30 else 31

-- Whether a token is a calendar date.
def isDate (cs : List Char) : Bool :=
  match cs with
  | [a, b, c, d, '-', e, f, '-', g, h] =>
    match bounded? 4 0 9999 [a, b, c, d], bounded? 2 1 12 [e, f] with
    | some year, some month => (bounded? 2 1 (daysOf year month) [g, h]).isSome
    | _, _ => false
  | _ => false

def isHourMinute (cs : List Char) : Bool :=
  match cs with
  | [a, b, ':', c, d] => (bounded? 2 0 23 [a, b]).isSome && (bounded? 2 0 59 [c, d]).isSome
  | _ => false

-- The parts of a second: nothing, or a point and digits.
def isSecondFraction (cs : List Char) : Bool :=
  match cs with
  | [] => true
  | '.' :: digits => !digits.isEmpty && digits.all Char.isDigit
  | _ => false

-- Whether a token is a time of day. A minute may have a leap second.
def isTime (cs : List Char) : Bool :=
  isHourMinute (cs.take 5) && (cs[5]?) == some ':' && (bounded? 2 0 60 ((cs.drop 6).take 2)).isSome
    && isSecondFraction (cs.drop 8)

-- Whether a token is a time of day with an optional offset from universal time.
def isOffsetTime (cs : List Char) : Bool :=
  isTime cs || (cs.getLast?.any fun c => c == 'Z' || c == 'z') && isTime cs.dropLast
    || (let cut := cs.length - 6
        (cs[cut]?).any (fun c => c == '+' || c == '-') && isHourMinute (cs.drop (cut + 1)) && isTime (cs.take cut))

def isDateTime (cs : List Char) : Bool :=
  isDate cs || isTime cs
    || isDate (cs.take 10) && (cs[10]?).any (fun c => c == 'T' || c == 't' || c == ' ') && isOffsetTime (cs.drop 11)

-- The value of a token.
def scalar? (token : List Char) : Option Toml :=
  match String.ofList token with
  | "true" => some (bool true)
  | "false" => some (bool false)
  | _ => if isDateTime token then some dateTime else (integer? token).or (floating? token)

-- The token in front, and what follows it. A date may be joined with a time by a blank.
def spanToken (input : List Char) : List Char × List Char :=
  let token := input.takeWhile isTokenChar
  let rest := input.dropWhile isTokenChar
  match rest with
  | ' ' :: a :: b :: ':' :: more =>
    if isDate token && a.isDigit && b.isDigit then
      let time := a :: b :: ':' :: more
      (token ++ ' ' :: time.takeWhile isTokenChar, time.dropWhile isTokenChar)
    else (token, rest)
  | _ => (token, rest)

end UwbRanging.Toml
