import SyscallFilter.Bytes

/-! Destinations of output that may fail. A sink keeps what it took; it may have room for a number
    of bytes only, or refuse one write. -/

namespace SyscallFilter.Output

open SyscallFilter

/-- Why bytes were lost. -/
inductive Loss where
  /-- Fewer bytes were taken than were written, without a word. -/
  | shortWrite
  /-- What the destination reports. -/
  | reported (text : Bytes)
  deriving DecidableEq

/-- The wording of a loss. -/
def Loss.message : Loss → Bytes
  | .shortWrite => utf8 "short write"
  | .reported text => text

/-- How much a sink can take. -/
inductive Capacity where
  | unlimited
  /-- Takes a number of writes, refuses the next one whole, and takes all that follow. -/
  | refusing (before : Nat) (loss : Loss)
  /-- Takes a number of bytes; the write that does not fit is cut, and reports a loss or nothing. -/
  | limited (room : Nat) (report : Option Loss)
  deriving DecidableEq

/-- A destination of output. -/
structure Sink where
  capacity : Capacity := .unlimited
  /-- The pieces taken, the last one first. -/
  pieces : List Bytes := []

namespace Sink

/-- The bytes taken. -/
def bytes (s : Sink) : Bytes := s.pieces.reverse.flatten

/-- The answer to a write: how many bytes were taken, and the loss that was reported. -/
structure Written where
  count : Nat
  loss : Option Loss
  sink : Sink

/-- Writes once. -/
def write (s : Sink) (data : Bytes) : Written :=
  match s.capacity with
  | .unlimited => ⟨data.length, none, { s with pieces := data :: s.pieces }⟩
  | .refusing 0 loss => ⟨0, some loss, { s with capacity := .unlimited }⟩
  | .refusing (before + 1) loss =>
    ⟨data.length, none, { capacity := .refusing before loss, pieces := data :: s.pieces }⟩
  | .limited room report =>
    let count := min room data.length
    ⟨count, if data.length ≤ room then none else report,
      { capacity := .limited (room - count) report, pieces := data.take count :: s.pieces }⟩

/-- Writes once, whatever becomes of it. -/
def post (s : Sink) (data : Bytes) : Sink := (s.write data).sink

end Sink

end SyscallFilter.Output
