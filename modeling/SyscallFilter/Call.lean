import SyscallFilter.ByteOrder

/-! The record of one system call that a filter looks at: its number, the architecture it was made
    for, the address of the calling instruction and six arguments. The record is laid out in words
    of 32 bits that the machine reads with the most significant byte first; a value of 64 bits is
    two words, the low one first.

        0        4        8         16           24           56
        number   arch     address   argument 0   argument 1 … argument 5 -/

namespace SyscallFilter

/-- A system call, as a filter sees it. -/
structure Call where
  number : Int32 := 0
  arch : UInt32 := 0
  address : UInt64 := 0
  arguments : Vector UInt64 6 := .replicate 6 0
  deriving DecidableEq

namespace Call

/-- The offset of the call's number in its record. -/
def numberOffset : UInt32 := 0

/-- The offset of the architecture in the record. -/
def archOffset : UInt32 := 4

/-- The offset of the address in the record. -/
def addressOffset : UInt32 := 8

/-- The offset of the first argument in the record. -/
def argumentsOffset : UInt32 := 16

/-- The number of bytes of a record. -/
def recordSize : Nat := argumentsOffset.toNat + 6 * 8

/-- A word of 32 bits in the record. -/
def word (w : UInt32) : Bytes := ByteOrder.big.write 4 w.toNat

/-- Puts a word of 32 bits at an offset of a record. -/
def putWord (record : Bytes) (offset : Nat) (w : UInt32) : Bytes :=
  record.take offset ++ word w ++ record.drop (offset + 4)

/-- Puts a value of 64 bits at an offset of a record: its low word, then its high word. -/
def putDoubleWord (record : Bytes) (offset : Nat) (v : UInt64) : Bytes :=
  putWord (putWord record offset v.toUInt32) (offset + 4) (v >>> 32).toUInt32

/-- Puts values of 64 bits into a record, one behind another. -/
def putDoubleWords (record : Bytes) (offset : Nat) : List UInt64 → Bytes
  | [] => record
  | v :: values => putDoubleWords (putDoubleWord record offset v) (offset + 8) values

/-- The record of a call, filled in from zeros. -/
def record (c : Call) : Bytes :=
  let blank := List.replicate recordSize 0
  let numbered := putWord blank numberOffset.toNat c.number.toUInt32
  let targeted := putWord numbered archOffset.toNat c.arch
  let addressed := putDoubleWord targeted addressOffset.toNat c.address
  putDoubleWords addressed argumentsOffset.toNat c.arguments.toList

end Call

end SyscallFilter
