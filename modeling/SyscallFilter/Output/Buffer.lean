import SyscallFilter.Output.Sink

/-! Buffered output. Texts are collected and reach the sink in pieces of a fixed size, and the rest
    when the buffer is flushed. After a loss nothing more is written. -/

namespace SyscallFilter.Output

open SyscallFilter

/-- A sink behind a buffer. -/
structure Buffer where
  sink : Sink
  /-- Bytes that have not reached the sink. -/
  pending : Bytes := []
  /-- The first loss. -/
  loss : Option Loss := none

namespace Buffer

/-- The size of the pieces. -/
def size : Nat := 4096

/-- How many more bytes can be collected. -/
def room (b : Buffer) : Nat := size - b.pending.length

/-- Writes the collected bytes to the sink; a sink that takes fewer has lost some. -/
def flush (b : Buffer) : Buffer :=
  if b.loss.isSome ∨ b.pending = [] then b
  else
    let w := b.sink.write b.pending
    let loss := w.loss <|> if w.count < b.pending.length then some .shortWrite else none
    ⟨w.sink, if loss.isSome then b.pending.drop w.count else [], loss⟩

/-- Takes in a text when nothing is collected: a text longer than a piece goes straight to the sink.
    A rest that is longer than a piece, left over without a word, would be written again, and for
    ever once the sink takes nothing more; here it counts as lost by a short write. -/
def start (b : Buffer) (text : Bytes) : Buffer :=
  if b.loss.isSome then b
  else if text.length ≤ size then { b with pending := text }
  else
    let w := b.sink.write text
    let rest := text.drop w.count
    { sink := w.sink
      pending := if rest.length ≤ size then rest else []
      loss := w.loss <|> if rest.length ≤ size then none else some .shortWrite }

/-- Takes in a text. -/
def write (b : Buffer) (text : Bytes) : Buffer :=
  if b.loss.isSome then b
  else if text.length ≤ b.room then { b with pending := b.pending ++ text }
  else if b.pending = [] then b.start text
  else
    ({ b with pending := b.pending ++ text.take b.room } : Buffer).flush.start (text.drop b.room)

/-- Takes in texts, one after another. -/
def writeAll (b : Buffer) (texts : List Bytes) : Buffer := texts.foldl write b

end Buffer

end SyscallFilter.Output
