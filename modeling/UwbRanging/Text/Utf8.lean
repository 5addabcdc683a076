namespace UwbRanging.Text

-- A character of a byte string, or `none` for a byte that is part of none.
abbrev Glyph := Option Char

-- The value of a continuation byte.
def continuation (b : UInt8) : Option Nat := if 0x80 ≤ b ∧ b ≤ 0xbf then some (b.toNat - 0x80) else none

-- The character of a code point, if the code point needs at least `least` and is no surrogate.
def scalar (least n : Nat) : Option Char :=
  if h : n.isValidChar then (if least ≤ n then some (Char.ofNatAux n h) else none) else none

-- The character at the front of a byte string, and the number of bytes it takes after its first.
def leading (b : UInt8) (rest : List UInt8) : Option (Char × Nat) := do
  if b < 0x80 then return (← scalar 0 b.toNat, 0)
  else if b < 0xe0 then
    let n := (b.toNat - 0xc0) * 0x40 + (← continuation (← rest[0]?))
    return (← scalar 0x80 n, 1)
  else if b < 0xf0 then
    let n := ((b.toNat - 0xe0) * 0x40 + (← continuation (← rest[0]?))) * 0x40 + (← continuation (← rest[1]?))
    return (← scalar 0x800 n, 2)
  else
    let n := (((b.toNat - 0xf0) * 0x40 + (← continuation (← rest[0]?))) * 0x40 + (← continuation (← rest[1]?))) * 0x40
      + (← continuation (← rest[2]?))
    return (← scalar 0x10000 n, 3)

-- Reads UTF-8. `skip` bytes belong to the character before and are passed over.
def glyphsAfter : (skip : Nat) → List UInt8 → List Glyph
  | _, [] => []
  | skip + 1, _ :: rest => glyphsAfter skip rest
  | 0, b :: rest =>
    match leading b rest with
    | some (c, width) => some c :: glyphsAfter width rest
    | none => none :: glyphsAfter 0 rest

-- The characters of a byte string, with a gap for each byte that is no part of UTF-8 text.
def glyphs (bytes : List UInt8) : List Glyph := glyphsAfter 0 bytes

-- The text that bytes spell, if all of them are UTF-8.
def decodeUtf8 (bytes : List UInt8) : Option (List Char) := (glyphs bytes).mapM id

def encodeUtf8 (text : String) : List UInt8 := text.toUTF8.toList

end UwbRanging.Text
