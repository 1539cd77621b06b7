/-! Byte strings, the carrier of everything the library reads and writes: policy lines, names,
    paths, messages and bytecode. Nothing promises that they are text; `utf8` is the way in from a
    text. -/

namespace SyscallFilter

/-- A string of bytes, with no promise that it is text. -/
abbrev Bytes := List UInt8

/-- The UTF-8 bytes of one character. -/
def utf8Char (c : Char) : Bytes := String.utf8EncodeChar c

/-- The UTF-8 bytes of a text. -/
def utf8 (s : String) : Bytes := s.toList.flatMap utf8Char

namespace Bytes

/-- The byte that ends a line. -/
def newline : UInt8 := 10

/-- The byte of an ASCII character. -/
def ascii (c : Char) : UInt8 := c.toUInt8

/-- The first piece of a byte string up to and including a newline, with what follows it. -/
def splitLine? : Bytes → Option (Bytes × Bytes)
  | [] => none
  | b :: rest =>
    if b = newline then some ([b], rest)
    else (splitLine? rest).map fun p => (b :: p.1, p.2)

/-- Drops one newline at the end, if there is one. -/
def dropNewline (s : Bytes) : Bytes := if s.getLast? = some newline then s.dropLast else s

/-- Whether the byte string begins with another one. -/
def startsWith (s start : Bytes) : Bool := start.isPrefixOf s

/-- The pieces joined, with a separator between neighbours. -/
def join (separator : Bytes) (pieces : List Bytes) : Bytes := separator.intercalate pieces

/-- Strict dictionary order on byte strings. -/
def before : Bytes → Bytes → Bool
  | _, [] => false
  | [], _ :: _ => true
  | a :: s, b :: t => a < b || (a == b && before s t)

end Bytes

end SyscallFilter
