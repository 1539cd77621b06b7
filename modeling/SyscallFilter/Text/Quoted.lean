import SyscallFilter.Numeral
import SyscallFilter.Text.Printable
import SyscallFilter.Text.Utf8

/-! Quoted text: any byte string between two marks, on one line and without ambiguity. The mark and
    the backslash stand behind a backslash; controls have a letter of their own or their code; a
    character that cannot be printed is written by its code point; a stray byte is written in
    hexadecimal. -/

namespace SyscallFilter.Text

open SyscallFilter

/-- The letter that names a control character behind a backslash. -/
def controlLetter? (c : Char) : Option Char :=
  match c.toNat with
  | 7 => some 'a'
  | 8 => some 'b'
  | 9 => some 't'
  | 10 => some 'n'
  | 11 => some 'v'
  | 12 => some 'f'
  | 13 => some 'r'
  | _ => none

/-- A code written with the given letter and number of hexadecimal digits. -/
def codeEscape (letter : Char) (width code : Nat) : Bytes :=
  utf8Char '\\' ++ utf8Char letter ++ Numeral.padded width (Numeral.hex code)

/-- A character as it stands between two marks. -/
def quoteChar (mark c : Char) : Bytes :=
  if c = mark ∨ c = '\\' then utf8Char '\\' ++ utf8Char c
  else if isPrintable c then utf8Char c
  else match controlLetter? c with
    | some letter => utf8Char '\\' ++ utf8Char letter
    | none =>
      if c.toNat < 0x80 then codeEscape 'x' 2 c.toNat
      else if c.toNat < 0x10000 then codeEscape 'u' 4 c.toNat
      else codeEscape 'U' 8 c.toNat

/-- A glyph as it stands between two marks. -/
def quoteGlyph (mark : Char) : Glyph → Bytes
  | .char c => quoteChar mark c
  | .stray b => codeEscape 'x' 2 b.toNat

/-- A byte string between double quotation marks. -/
def quoted (s : Bytes) : Bytes :=
  utf8Char '"' ++ (glyphs s).flatMap (quoteGlyph '"') ++ utf8Char '"'

/-- A character between single quotation marks. -/
def quotedChar (c : Char) : Bytes := utf8Char '\'' ++ quoteChar '\'' c ++ utf8Char '\''

end SyscallFilter.Text
