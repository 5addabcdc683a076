import UwbRanging.Decimal.Scaled
import UwbRanging.Json.Basic
import UwbRanging.Text.Hex
import UwbRanging.Text.Utf8

namespace UwbRanging.Json

open Text (Glyph)

-- A piece of a string: a character, the number of half a surrogate pair, or a foreign byte.
inductive Piece where
  | char (c : Char)
  | half (unit : Nat)
  | foreign
  deriving DecidableEq, Repr

-- The character of a surrogate pair.
def pairChar (high low : Nat) : Char := Char.ofNat (0x10000 + (high - 0xd800) * 0x400 + (low - 0xdc00))

-- The text of a string's pieces. A high half must be followed by a low half.
def joinPieces : List Piece → Option (List Char)
  | [] => some []
  | .char c :: rest => (joinPieces rest).map (c :: ·)
  | .half high :: .half low :: rest =>
    if high < 0xdc00 ∧ 0xdc00 ≤ low then (joinPieces rest).map (pairChar high low :: ·) else none
  | _ => none

-- The piece of a four-digit escape.
def pieceOfUnit (unit : Nat) : Piece :=
  if 0xd800 ≤ unit ∧ unit < 0xe000 then .half unit else .char (Char.ofNat unit)

def hexValue? (g : Glyph) : Option Nat := do
  let c ← g
  if c.toNat < 0x80 then Hex.digitValue? (UInt8.ofNat c.toNat) else none

def unit? (a b c d : Glyph) : Option Nat := do
  return (((← hexValue? a) * 16 + (← hexValue? b)) * 16 + (← hexValue? c)) * 16 + (← hexValue? d)

-- The character of an escape of one letter.
def shortEscape? : Char → Option Char
  | '"' => some '"'
  | '\\' => some '\\'
  | '/' => some '/'
  | 'b' => some '\x08'
  | 'f' => some '\x0c'
  | 'n' => some '\n'
  | 'r' => some '\r'
  | 't' => some '\t'
  | _ => none

-- The pieces of a string up to its closing quote, and what follows.
def pieces : List Glyph → Option (List Piece × List Glyph)
  | some '"' :: rest => some ([], rest)
  | some '\\' :: some 'u' :: a :: b :: c :: d :: rest =>
    match unit? a b c d with
    | some unit => (pieces rest).map fun p => (pieceOfUnit unit :: p.1, p.2)
    | none => none
  | some '\\' :: some e :: rest =>
    match shortEscape? e with
    | some c => (pieces rest).map fun p => (.char c :: p.1, p.2)
    | none => none
  | some '\\' :: _ => none
  | some c :: rest => if c.toNat < 0x20 then none else (pieces rest).map fun p => (.char c :: p.1, p.2)
  | none :: rest => (pieces rest).map fun p => (.foreign :: p.1, p.2)
  | [] => none

-- The text of a string after its opening quote.
def stringBody (input : List Glyph) : Option (Option String × List Glyph) :=
  (pieces input).map fun p => ((joinPieces p.1).map String.ofList, p.2)

def isBlank : Glyph → Bool
  | some c => c == ' ' || c == '\t' || c == '\n' || c == '\r'
  | none => false

def skipBlanks (input : List Glyph) : List Glyph := input.dropWhile isBlank

def isDigit : Glyph → Bool
  | some c => c.isDigit
  | none => false

-- The digits in front, and what follows them.
def spanDigits (input : List Glyph) : List Char × List Glyph :=
  ((input.takeWhile isDigit).filterMap id, input.dropWhile isDigit)

-- A fraction: a point and at least one digit. Without a point it is empty.
def fraction : List Glyph → Option (List Char × List Glyph)
  | some '.' :: rest =>
    let (digits, rest) := spanDigits rest
    if digits.isEmpty then none else some (digits, rest)
  | input => some ([], input)

-- An exponent after its letter: an optional sign and at least one digit.
def exponentBody (input : List Glyph) : Option (Int × List Glyph) :=
  let (negative, input) := match input with
    | some '-' :: rest => (true, rest)
    | some '+' :: rest => (false, rest)
    | input => (false, input)
  let (digits, rest) := spanDigits input
  if digits.isEmpty then none
  else some (if negative then -(Decimal.ofDigits digits : Int) else Decimal.ofDigits digits, rest)

def exponent : List Glyph → Option (Option Int × List Glyph)
  | some 'e' :: rest => (exponentBody rest).map fun p => (some p.1, p.2)
  | some 'E' :: rest => (exponentBody rest).map fun p => (some p.1, p.2)
  | input => some (none, input)

-- The digits before the point: a zero alone, or digits that do not start with one.
def whole : List Glyph → Option (List Char × List Glyph)
  | some '0' :: rest => some (['0'], rest)
  | input =>
    let (digits, rest) := spanDigits input
    if digits.isEmpty then none else some (digits, rest)

-- The value of a number with these parts.
def numberOf (negative : Bool) (whole fraction : List Char) (exponent : Option Int) : Json :=
  let n := Decimal.ofDigits whole
  if fraction.isEmpty ∧ exponent.isNone ∧ ¬ (negative ∧ n = 0) then int (if negative then -(n : Int) else n)
  else real (.clipped negative whole fraction (exponent.getD 0))

def number (input : List Glyph) : Option (Json × List Glyph) := do
  let (negative, input) := match input with
    | some '-' :: rest => (true, rest)
    | input => (false, input)
  let (w, input) ← whole input
  let (f, input) ← fraction input
  let (e, input) ← exponent input
  return (numberOf negative w f e, input)

def stringValue : Option String → Json
  | some s => text s
  | none => garbled

mutual

-- A value at the front, and what follows it. The fuel bounds the number of values; the length of
-- the input is enough of it, since each value takes a character.
def value : (fuel : Nat) → List Glyph → Option (Json × List Glyph)
  | 0, _ => none
  | fuel + 1, input =>
    match skipBlanks input with
    | some '"' :: rest => (stringBody rest).map fun p => (stringValue p.1, p.2)
    | some '[' :: rest =>
      match skipBlanks rest with
      | some ']' :: rest => some (arr [], rest)
      | rest => (items fuel rest).map fun p => (arr p.1, p.2)
    | some '{' :: rest =>
      match skipBlanks rest with
      | some '}' :: rest => some (obj [], rest)
      | rest => (members fuel rest).map fun p => (obj p.1, p.2)
    | some 't' :: some 'r' :: some 'u' :: some 'e' :: rest => some (bool true, rest)
    | some 'f' :: some 'a' :: some 'l' :: some 's' :: some 'e' :: rest => some (bool false, rest)
    | some 'n' :: some 'u' :: some 'l' :: some 'l' :: rest => some (null, rest)
    | rest => number rest

-- The values of an array up to its end, at least one.
def items : (fuel : Nat) → List Glyph → Option (List Json × List Glyph)
  | 0, _ => none
  | fuel + 1, input => do
    let (item, rest) ← value fuel input
    match skipBlanks rest with
    | some ',' :: rest =>
      let (more, rest) ← items fuel rest
      return (item :: more, rest)
    | some ']' :: rest => return ([item], rest)
    | _ => none

-- The members of an object up to its end, at least one.
def members : (fuel : Nat) → List Glyph → Option (List (Option String × Json) × List Glyph)
  | 0, _ => none
  | fuel + 1, input => do
    let (name, rest) ← match skipBlanks input with
      | some '"' :: rest => stringBody rest
      | _ => none
    let (v, rest) ← match skipBlanks rest with
      | some ':' :: rest => value fuel rest
      | _ => none
    match skipBlanks rest with
    | some ',' :: rest =>
      let (more, rest) ← members fuel rest
      return ((name, v) :: more, rest)
    | some '}' :: rest => return ([(name, v)], rest)
    | _ => none

end

-- The value that a whole text spells. Only blanks may follow it.
def parseGlyphs (input : List Glyph) : Option Json := do
  let (v, rest) ← value (input.length + 1) input
  if (skipBlanks rest).isEmpty then return v else none

def parse (bytes : List UInt8) : Option Json := parseGlyphs (Text.glyphs bytes)

end UwbRanging.Json
