import UwbRanging.Json.Basic
import UwbRanging.Text.Hex

namespace UwbRanging.Json

-- A character inside a string. Control characters without a short form are written by their number.
def escapeChar (c : Char) : List Char :=
  match c with
  | '"' => ['\\', '"']
  | '\\' => ['\\', '\\']
  | '\x08' => ['\\', 'b']
  | '\x0c' => ['\\', 'f']
  | '\n' => ['\\', 'n']
  | '\r' => ['\\', 'r']
  | '\t' => ['\\', 't']
  | c => if c.toNat < 0x20 then ['\\', 'u', '0', '0', Hex.digit (c.toNat / 16), Hex.digit (c.toNat % 16)] else [c]

def quote (cs : List Char) : List Char := '"' :: cs.flatMap escapeChar ++ ['"']

def printNat (n : Nat) : List Char := Nat.toDigits 10 n

def printInt (n : Int) : List Char :=
  if n < 0 then '-' :: printNat n.natAbs else printNat n.natAbs

def printLiteral (l : Decimal.Literal) : List Char :=
  (if l.negative then ['-'] else []) ++ printNat l.digits ++ 'e' :: printInt l.exponent

-- A string that spells no text is written as half of a surrogate pair.
def garbledText : List Char := ['"', '\\', 'u', 'd', '8', '0', '0', '"']

mutual

-- The text of a value, without blanks.
def print : Json → List Char
  | null => ['n', 'u', 'l', 'l']
  | bool true => ['t', 'r', 'u', 'e']
  | bool false => ['f', 'a', 'l', 's', 'e']
  | int n => printInt n
  | real l => printLiteral l
  | text s => quote s.toList
  | garbled => garbledText
  | arr [] => ['[', ']']
  | arr (item :: rest) => '[' :: print item ++ printItems rest
  | obj [] => ['{', '}']
  | obj ((name, value) :: rest) => '{' :: printName name ++ ':' :: print value ++ printMembers rest

def printItems : List Json → List Char
  | [] => [']']
  | item :: rest => ',' :: print item ++ printItems rest

def printMembers : List (Option String × Json) → List Char
  | [] => ['}']
  | (name, value) :: rest => ',' :: printName name ++ ':' :: print value ++ printMembers rest

def printName : Option String → List Char
  | some s => quote s.toList
  | none => garbledText

end

def render (j : Json) : String := String.ofList j.print

end UwbRanging.Json
