import SyscallFilter.Bytes

/-! Byte strings read as UTF-8. Every byte string has a reading: where no well-formed character
    begins, the first byte stands alone as a stray byte and reading goes on behind it. Overlong
    forms, surrogates and values above U+10FFFF are not well formed. -/

namespace SyscallFilter.Text

open SyscallFilter

/-- A piece of a byte string: a character, or a byte at which no character begins. -/
inductive Glyph where
  | char (c : Char)
  | stray (b : UInt8)
  deriving DecidableEq

/-- Whether `b` lies between `low` and `high`, both included. -/
def within (low high b : UInt8) : Bool := low ≤ b && b ≤ high

/-- Whether `b` may continue a character. -/
def isTail (b : UInt8) : Bool := within 0x80 0xBF b

/-- The six bits that a continuing byte carries. -/
def tailBits (b : UInt8) : Nat := b.toNat % 64

/-- How many bytes follow a lead byte, and the bounds of the first of them. -/
def lead? (b : UInt8) : Option (Nat × UInt8 × UInt8) :=
  if within 0xC2 0xDF b then some (1, 0x80, 0xBF)
  else if b = 0xE0 then some (2, 0xA0, 0xBF)
  else if b = 0xED then some (2, 0x80, 0x9F)
  else if within 0xE1 0xEF b then some (2, 0x80, 0xBF)
  else if b = 0xF0 then some (3, 0x90, 0xBF)
  else if within 0xF1 0xF3 b then some (3, 0x80, 0xBF)
  else if b = 0xF4 then some (3, 0x80, 0x8F)
  else none

/-- The character that begins with the lead byte `b` and goes on in `rest`. -/
def multibyte? (b : UInt8) (rest : Bytes) : Option (Char × Nat) :=
  match lead? b, rest with
  | some (1, low, high), c :: _ =>
    if within low high c then some (.ofNat (b.toNat % 32 * 64 + tailBits c), 1) else none
  | some (2, low, high), c :: d :: _ =>
    if within low high c && isTail d then
      some (.ofNat ((b.toNat % 16 * 64 + tailBits c) * 64 + tailBits d), 2)
    else none
  | some (3, low, high), c :: d :: e :: _ =>
    if within low high c && isTail d && isTail e then
      some (.ofNat (((b.toNat % 8 * 64 + tailBits c) * 64 + tailBits d) * 64 + tailBits e), 3)
    else none
  | _, _ => none

/-- The glyph at the byte `b` with `rest` behind it, and how many bytes of `rest` belong to it. -/
def firstGlyph (b : UInt8) (rest : Bytes) : Glyph × Nat :=
  if b < 0x80 then (.char (.ofNat b.toNat), 0)
  else match multibyte? b rest with
    | some (c, n) => (.char c, n)
    | none => (.stray b, 0)

/-- The glyphs already read, of which the last comes first, and then those behind the first `skip`
    bytes. -/
def glyphsOnto (done : List Glyph) : (skip : Nat) → Bytes → List Glyph
  | _, [] => done.reverse
  | skip + 1, _ :: rest => glyphsOnto done skip rest
  | 0, b :: rest =>
    let (glyph, skip) := firstGlyph b rest
    glyphsOnto (glyph :: done) skip rest

/-- The reading of a byte string. -/
def glyphs (s : Bytes) : List Glyph := glyphsOnto [] 0 s

/-- The character that stands in for bytes that are not text. -/
def replacement : Char := Char.ofNat 0xFFFD

/-- The character of a glyph, with the replacement character for a stray byte. -/
def Glyph.toChar : Glyph → Char
  | .char c => c
  | .stray _ => replacement

end SyscallFilter.Text
