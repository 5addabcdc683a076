namespace UwbRanging.Hex

def lowerDigits : List Char := ['0', '1', '2', '3', '4', '5', '6', '7', '8', '9', 'a', 'b', 'c', 'd', 'e', 'f']

-- The lower-case digit of a number below 16.
def digit (n : Nat) : Char := lowerDigits.getD n '0'

-- The two digits of a byte, the high half first.
def encodeByte (b : UInt8) : List Char := [digit (b.toNat / 16), digit (b.toNat % 16)]

def encode (bytes : List UInt8) : String := String.ofList (bytes.flatMap encodeByte)

-- The value of an ASCII hexadecimal digit of either case.
def digitValue? (b : UInt8) : Option Nat :=
  if 0x30 ≤ b ∧ b ≤ 0x39 then some (b.toNat - 0x30)
  else if 0x61 ≤ b ∧ b ≤ 0x66 then some (b.toNat - 0x61 + 10)
  else if 0x41 ≤ b ∧ b ≤ 0x46 then some (b.toNat - 0x41 + 10)
  else none

-- Why a text is not the hexadecimal form of a byte string. A foreign byte is given with the place,
-- counted in bytes, at which it stands.
inductive Fault where
  | oddLength
  | foreign (byte : UInt8) (place : Nat)
  deriving DecidableEq, Repr

-- The bytes of digit pairs. The first byte that is no digit is reported; `place` is the place of
-- the first byte of the list in the whole text.
def decodePairs (place : Nat) : List UInt8 → Except Fault (List UInt8)
  | high :: low :: rest =>
    match digitValue? high, digitValue? low with
    | none, _ => .error (.foreign high place)
    | some _, none => .error (.foreign low (place + 1))
    | some h, some l => do
      let bytes ← decodePairs (place + 2) rest
      return UInt8.ofNat (16 * h + l) :: bytes
  | _ => .ok []

-- An odd number of bytes is reported before any byte that is no digit.
def decodeBytes (text : List UInt8) : Except Fault (List UInt8) :=
  if text.length % 2 = 1 then .error .oddLength else decodePairs 0 text

def decode (text : String) : Except Fault (List UInt8) := decodeBytes text.toUTF8.toList

-- The digits of `n`, at least one, most significant first.
def natDigits (n : Nat) : List Char := Nat.toDigits 16 n

-- `n` as hexadecimal digits, filled up with zeros on the left to `width`.
def padded (width n : Nat) : String :=
  let digits := natDigits n
  String.ofList (List.replicate (width - digits.length) '0' ++ digits)

end UwbRanging.Hex
