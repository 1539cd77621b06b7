import SyscallFilter.Listing

/-! What is written through a buffer arrives. The content of a buffer is what has reached its sink
    and what is still pending behind it. Over a sink that takes everything, writing a text adds it
    to the content and flushing moves all of the content to the sink, so that a listing is written
    whole: its heading, and then the program. -/

namespace SyscallFilter.Output

open SyscallFilter

theorem Sink.write_unlimited {s : Sink} (h : s.capacity = .unlimited) (data : Bytes) :
    s.write data = ⟨data.length, none, { s with pieces := data :: s.pieces }⟩ := by
  rw [write, h]

theorem Sink.bytes_cons (s : Sink) (data : Bytes) :
    ({ s with pieces := data :: s.pieces } : Sink).bytes = s.bytes ++ data := by
  simp [bytes]

namespace Buffer

/-- What was taken in: the bytes that have reached the sink, and the pending ones. -/
def content (b : Buffer) : Bytes := b.sink.bytes ++ b.pending

/-- A buffer over a sink that takes everything, from which nothing is lost. -/
structure Sure (b : Buffer) : Prop where
  unlimited : b.sink.capacity = .unlimited
  whole : b.loss = none

variable {b : Buffer} (h : b.Sure)
include h

theorem Sure.flush_of_pending (hp : b.pending ≠ []) :
    b.flush = ⟨{ b.sink with pieces := b.pending :: b.sink.pieces }, [], none⟩ := by
  simp [Buffer.flush, h.whole, hp, Sink.write_unlimited h.unlimited]

theorem Sure.start_of_long {text : Bytes} (hlong : ¬ text.length ≤ size) :
    b.start text = ⟨{ b.sink with pieces := text :: b.sink.pieces }, [], none⟩ := by
  simp [Buffer.start, h.whole, hlong, Sink.write_unlimited h.unlimited]

/-- Flushing moves the content to the sink. -/
theorem Sure.flush : b.flush.Sure ∧ b.flush.sink.bytes = b.content ∧ b.flush.pending = [] := by
  by_cases hp : b.pending = []
  · have hflush : b.flush = b := if_pos (Or.inr hp)
    rw [hflush, content, hp, List.append_nil]
    exact ⟨h, rfl, rfl⟩
  · rw [h.flush_of_pending hp]
    exact ⟨⟨h.unlimited, rfl⟩, Sink.bytes_cons b.sink b.pending, rfl⟩

theorem Sure.start (hp : b.pending = []) (text : Bytes) :
    (b.start text).Sure ∧ (b.start text).content = b.content ++ text := by
  by_cases hlong : text.length ≤ size
  · have hstart : b.start text = { b with pending := text } := by
      simp [Buffer.start, h.whole, hlong]
    rw [hstart, content, content, hp, List.append_nil]
    exact ⟨⟨h.unlimited, h.whole⟩, rfl⟩
  · rw [h.start_of_long hlong, content, content, hp, List.append_nil, List.append_nil]
    exact ⟨⟨h.unlimited, rfl⟩, Sink.bytes_cons b.sink text⟩

/-- Writing adds a text to the content. -/
theorem Sure.write (text : Bytes) :
    (b.write text).Sure ∧ (b.write text).content = b.content ++ text := by
  have hloss : ¬ b.loss.isSome = true := by simp [h.whole]
  rw [Buffer.write, if_neg hloss]
  by_cases hroom : text.length ≤ b.room
  · rw [if_pos hroom, content, content, List.append_assoc]
    exact ⟨⟨h.unlimited, h.whole⟩, rfl⟩
  · rw [if_neg hroom]
    by_cases hp : b.pending = []
    · rw [if_pos hp]
      exact h.start hp text
    · rw [if_neg hp]
      -- The buffer is filled up and flushed, and the rest of the text starts a new piece.
      have hfull : ({ b with pending := b.pending ++ text.take b.room } : Buffer).Sure :=
        ⟨h.unlimited, h.whole⟩
      obtain ⟨hsure, hbytes, hempty⟩ := hfull.flush
      obtain ⟨hsure', hcontent⟩ := hsure.start hempty (text.drop b.room)
      refine ⟨hsure', ?_⟩
      rw [hcontent, content, hempty, List.append_nil, hbytes]
      simp only [content, List.append_assoc, List.take_append_drop]

theorem Sure.writeAll (texts : List Bytes) :
    (b.writeAll texts).Sure ∧ (b.writeAll texts).content = b.content ++ texts.flatten := by
  induction texts generalizing b with
  | nil => exact ⟨h, by simp [Buffer.writeAll]⟩
  | cons text texts ih =>
    obtain ⟨hsure, hcontent⟩ := h.write text
    obtain ⟨hsure', hcontent'⟩ := ih hsure
    refine ⟨hsure', ?_⟩
    rw [List.flatten_cons, ← List.append_assoc, ← hcontent]
    exact hcontent'

end Buffer

end SyscallFilter.Output

namespace SyscallFilter.Compilation

open Output Bpf

/-- The lines of a listing: the heading, and the program if the filter can be taken apart. -/
def listing (c : Compilation) : List Bytes :=
  c.heading ++ (c.filter.disassemble?.map programLines).getD []

/-- If the filter can be taken apart, the whole listing is written and flushed. -/
theorem writeListing_of_some {c : Compilation} {program : List Instruction}
    (h : c.filter.disassemble? = some program) (sink : Sink) :
    c.writeListing sink = ((Buffer.writeAll { sink } c.listing).flush.loss.map .lost,
      (Buffer.writeAll { sink } c.listing).flush.sink) := by
  simp [writeListing, listing, h, Buffer.writeAll]

/-- If the filter cannot be taken apart, the heading is written and not flushed. -/
theorem writeListing_of_none {c : Compilation} (h : c.filter.disassemble? = none) (sink : Sink) :
    c.writeListing sink =
      (some .unknownInstructions, (Buffer.writeAll { sink } c.heading).sink) := by
  simp only [writeListing, h]

/-- Nothing of a listing is lost on a sink that takes everything. -/
theorem writeListing_unlimited {c : Compilation} {program : List Instruction}
    (h : c.filter.disassemble? = some program) :
    (c.writeListing {}).1 = none ∧
      (c.writeListing {}).2.bytes = (c.heading ++ programLines program).flatten := by
  have hempty : Buffer.Sure { sink := {} } := ⟨rfl, rfl⟩
  have hlisting : c.listing = c.heading ++ programLines program := by rw [listing, h]; rfl
  obtain ⟨hwritten, hcontent⟩ := hempty.writeAll c.listing
  obtain ⟨hflush, hbytes, -⟩ := hwritten.flush
  rw [writeListing_of_some h]
  refine ⟨by rw [hflush.whole]; rfl, ?_⟩
  rw [hbytes, hcontent, hlisting]
  rfl

theorem writeBytecode_unlimited (c : Compilation) :
    c.writeBytecode {} = (none, { pieces := [c.bytecode] }) ∧
      (c.writeBytecode {}).2.bytes = c.bytecode :=
  ⟨rfl, List.append_nil _⟩

end SyscallFilter.Compilation
