import SyscallFilter.Bytes

/-! Where a policy comes from: a source of bytes that is read piece by piece. A source is a script
    of chunks. A read takes as much of the first chunk as there is room for; with the last byte of a
    chunk comes the chunk's fault, if it has one. Behind the last chunk the input ends. -/

namespace SyscallFilter.Policy

open SyscallFilter

/-- Why a read gives no more bytes. -/
inductive Fault where
  /-- The input has ended. -/
  | endOfInput
  /-- The input has ended, and the report says more than that. -/
  | endOfInputIn (text : Bytes)
  /-- Reading went wrong. -/
  | failure (text : Bytes)
  /-- Reading neither gave bytes nor failed, too often in a row. -/
  | noProgress
  deriving DecidableEq

namespace Fault

/-- The wording of a fault. -/
def message : Fault → Bytes
  | .endOfInput => utf8 "EOF"
  | .endOfInputIn text => text
  | .failure text => text
  | .noProgress => utf8 "multiple Read calls return no data or error"

/-- Whether a fault is the end of the input. -/
def isEnd : Fault → Bool
  | .endOfInput => true
  | .endOfInputIn _ => true
  | .failure _ => false
  | .noProgress => false

end Fault

/-- A piece of a source. -/
structure Chunk where
  data : Bytes
  fault : Option Fault := none
  deriving DecidableEq

/-- A source of bytes. -/
abbrev Source := List Chunk

namespace Source

/-- The source that gives some bytes and ends. -/
def ofBytes (bytes : Bytes) : Source := [{ data := bytes }]

/-- The number of bytes left in a source. -/
def bytesLeft : Source → Nat
  | [] => 0
  | c :: rest => c.data.length + bytesLeft rest

/-- What one read gives. -/
structure Read where
  data : Bytes
  fault : Option Fault
  rest : Source

/-- Reads once, with room for a number of bytes. -/
def read (room : Nat) : Source → Read
  | [] => ⟨[], some .endOfInput, []⟩
  | c :: rest =>
    if (c.data.drop room).isEmpty then ⟨c.data, c.fault, rest⟩
    else ⟨c.data.take room, none, { c with data := c.data.drop room } :: rest⟩

/-- Reads until there are bytes or a fault, at most `attempts` times. -/
def readSome (room : Nat) : (attempts : Nat) → Source → Read
  | 0, s => ⟨[], some .noProgress, s⟩
  | attempts + 1, s =>
    match s.read room with
    | ⟨[], none, rest⟩ => readSome room attempts rest
    | r => r

end Source

end SyscallFilter.Policy
