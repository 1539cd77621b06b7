import SyscallFilter.Numeral

/-! Instructions of the classic packet-filter machine: an accumulator `A`, an index register `X` and
    sixteen scratch words. An instruction under construction may name a register, width, operation
    or test that the machine does not have; such a value keeps its number so that messages can show
    it. -/

namespace SyscallFilter.Bpf

open SyscallFilter

/-- A register of the machine. -/
inductive Register where
  | accumulator
  | index
  | unassigned (number : UInt16)
  deriving DecidableEq

/-- The register with the given number. -/
def Register.ofNumber (n : UInt16) : Register :=
  if n = 0 then .accumulator else if n = 1 then .index else .unassigned n

/-- The number of a register. -/
def Register.number : Register → UInt16
  | .accumulator => 0
  | .index => 1
  | .unassigned n => n

/-- How many bytes a load reads. -/
inductive Width where
  | byte
  | half
  | word
  | unassigned (bytes : Int)
  deriving DecidableEq

/-- The width of the given number of bytes. -/
def Width.ofBytes (n : Int) : Width :=
  if n = 1 then .byte else if n = 2 then .half else if n = 4 then .word else .unassigned n

/-- The number of bytes of a width. -/
def Width.bytes : Width → Int
  | .byte => 1
  | .half => 2
  | .word => 4
  | .unassigned n => n

/-- An arithmetic operation on the accumulator. -/
inductive Operation where
  | add
  | sub
  | mul
  | div
  | or
  | and
  | shiftLeft
  | shiftRight
  | mod
  | xor
  | unassigned (bits : UInt16)
  deriving DecidableEq

/-- The operation with the given bits. -/
def Operation.ofBits (n : UInt16) : Operation :=
  if n = 0x00 then .add
  else if n = 0x10 then .sub
  else if n = 0x20 then .mul
  else if n = 0x30 then .div
  else if n = 0x40 then .or
  else if n = 0x50 then .and
  else if n = 0x60 then .shiftLeft
  else if n = 0x70 then .shiftRight
  else if n = 0x90 then .mod
  else if n = 0xa0 then .xor
  else .unassigned n

/-- The bits of an operation inside an instruction's code. -/
def Operation.bits : Operation → UInt16
  | .add => 0x00
  | .sub => 0x10
  | .mul => 0x20
  | .div => 0x30
  | .or => 0x40
  | .and => 0x50
  | .shiftLeft => 0x60
  | .shiftRight => 0x70
  | .mod => 0x90
  | .xor => 0xa0
  | .unassigned n => n

/-- A test of the accumulator against an operand. -/
inductive Test where
  | equal
  | notEqual
  | greater
  | less
  | greaterOrEqual
  | lessOrEqual
  | bitsSet
  | bitsNotSet
  | unassigned (number : UInt16)
  deriving DecidableEq

/-- The test with the given number. -/
def Test.ofNumber (n : UInt16) : Test :=
  if n = 0 then .equal
  else if n = 1 then .notEqual
  else if n = 2 then .greater
  else if n = 3 then .less
  else if n = 4 then .greaterOrEqual
  else if n = 5 then .lessOrEqual
  else if n = 6 then .bitsSet
  else if n = 7 then .bitsNotSet
  else .unassigned n

/-- An instruction as it is stored: its code, two jump offsets and a constant. -/
structure Word where
  code : UInt16
  jt : UInt8
  jf : UInt8
  k : UInt32
  deriving DecidableEq

/-- An instruction of the machine. -/
inductive Instruction where
  /-- Puts a constant into a register. -/
  | loadConstant (target : Register) (value : UInt32)
  /-- Puts a scratch word into a register. -/
  | loadScratch (target : Register) (slot : Int)
  /-- Puts the record's bytes at an offset into the accumulator. -/
  | loadAbsolute (offset : UInt32) (width : Width)
  /-- Puts the record's bytes at an offset from the index register into the accumulator. -/
  | loadIndirect (offset : UInt32) (width : Width)
  /-- Puts four times the low half of one byte into the index register. -/
  | loadMemShift (offset : UInt32)
  /-- Asks the machine's host for a value. -/
  | loadExtension (number : Int)
  /-- Puts a register into a scratch word. -/
  | storeScratch (source : Register) (slot : Int)
  /-- Computes with the accumulator and a constant. -/
  | aluConstant (op : Operation) (value : UInt32)
  /-- Computes with the accumulator and the index register. -/
  | aluIndex (op : Operation)
  /-- Changes the sign of the accumulator. -/
  | negate
  /-- Goes on behind the next `skip` instructions. -/
  | jump (skip : UInt32)
  /-- Skips by a test of the accumulator against a constant. -/
  | jumpIf (test : Test) (value : UInt32) (skipTrue skipFalse : UInt8)
  /-- Skips by a test of the accumulator against the index register. -/
  | jumpIfIndex (test : Test) (skipTrue skipFalse : UInt8)
  /-- Ends with the accumulator as the answer. -/
  | retAccumulator
  /-- Ends with a constant as the answer. -/
  | retConstant (value : UInt32)
  /-- Copies the accumulator to the index register. -/
  | copyToIndex
  /-- Copies the index register to the accumulator. -/
  | copyToAccumulator
  /-- A stored instruction that has no meaning here. -/
  | raw (word : Word)
  deriving DecidableEq

/-- The number of the extension that gives the length of the record. -/
def lengthExtension : Int := 1

/-- Absolute loads above this offset ask for an extension. -/
def lastOffset : UInt32 := 0xffffefff

/-- How far below zero, in 32 bits, the extensions are numbered from. -/
def extensionBase : UInt32 := 0x1000

/-- The number of scratch words. -/
def scratchSize : Nat := 16

end SyscallFilter.Bpf
