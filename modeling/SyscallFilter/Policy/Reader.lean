import SyscallFilter.Numeral
import SyscallFilter.Policy.Line
import SyscallFilter.Policy.Source

/-! The reader of a policy: lines, one after another, through a buffer of fixed size.

    A fault that comes with bytes waits until the bytes are used up. The end of the input completes
    a line that has no newline, and reading goes on after it; only when there is nothing to deliver
    is the end final. Any other fault loses the line that it interrupts and is final at once. -/

namespace SyscallFilter.Policy

open SyscallFilter

/-- Why a reader gives no line. -/
inductive ReadError where
  | endOfInput
  | atLine (number : Nat) (fault : Fault)
  deriving DecidableEq

/-- The wording of a read error. -/
def ReadError.message : ReadError → Bytes
  | .endOfInput => Fault.endOfInput.message
  | .atLine number fault =>
    utf8 "read policy line " ++ Numeral.decimal number ++ utf8 ": " ++ fault.message

/-- A reader in the middle of its source. -/
structure Reader where
  source : Source
  /-- Bytes read and not yet delivered. -/
  buffered : Bytes := []
  /-- A fault that waits behind the buffered bytes. -/
  pending : Option Fault := none
  /-- The number of lines delivered. -/
  delivered : Nat := 0
  /-- The final answer, once it was given. -/
  final : Option ReadError := none

namespace Reader

/-- The size of the buffer. -/
def bufferSize : Nat := 4096

/-- How often in a row a read may give neither bytes nor a fault. -/
def maxEmptyReads : Nat := 100

/-- The bytes that the reader can still come by. -/
def bytesLeft (r : Reader) : Nat := r.source.bytesLeft + r.buffered.length

/-- Reads more bytes into the buffer, or leaves a fault pending. -/
def fill (r : Reader) : Reader :=
  let more := r.source.readSome (bufferSize - r.buffered.length) maxEmptyReads
  { r with
    source := more.rest
    buffered := r.buffered ++ more.data
    pending := more.fault }

end Reader

/-! ### Reading makes progress -/

theorem Source.bytesLeft_read (room : Nat) (s : Source) :
    (s.read room).rest.bytesLeft + (s.read room).data.length = s.bytesLeft := by
  cases s with
  | nil => rfl
  | cons c rest =>
    have h := congrArg List.length (List.take_append_drop room c.data)
    rw [List.length_append] at h
    by_cases he : (c.data.drop room).isEmpty
    · simp [Source.read, he, Source.bytesLeft]; omega
    · simp [Source.read, he, Source.bytesLeft] at h ⊢; omega

theorem Source.bytesLeft_readSome (room : Nat) : ∀ (attempts : Nat) (s : Source),
    (s.readSome room attempts).rest.bytesLeft + (s.readSome room attempts).data.length
      = s.bytesLeft
  | 0, _ => rfl
  | attempts + 1, s => by
    have h := Source.bytesLeft_read room s
    unfold Source.readSome
    split
    · next rest hr =>
      rw [hr] at h
      rw [Source.bytesLeft_readSome room attempts rest]
      simpa using h
    · exact h

theorem Source.data_ne_nil_of_readSome (room : Nat) : ∀ (attempts : Nat) (s : Source),
    (s.readSome room attempts).fault = none → (s.readSome room attempts).data ≠ []
  | 0, _, h => by simp [Source.readSome] at h
  | attempts + 1, s, h => by
    unfold Source.readSome at h ⊢
    split at h
    · next rest hr =>
      exact Source.data_ne_nil_of_readSome room attempts rest h
    · next hr =>
      intro hd
      exact hr (s.read room).rest (by rw [← hd, ← h])

namespace Reader

@[simp] theorem bytesLeft_fill (r : Reader) : r.fill.bytesLeft = r.bytesLeft := by
  have h := Source.bytesLeft_readSome (bufferSize - r.buffered.length) maxEmptyReads r.source
  simp only [bytesLeft, fill, List.length_append]
  omega

theorem buffered_fill_le (r : Reader) : r.buffered.length ≤ r.fill.buffered.length := by
  simp [fill]

theorem buffered_fill_lt (r : Reader) (h : r.fill.pending = none) :
    r.buffered.length < r.fill.buffered.length := by
  have hd := Source.data_ne_nil_of_readSome (bufferSize - r.buffered.length) maxEmptyReads
    r.source h
  have := List.length_pos_iff.mpr hd
  simp only [fill, List.length_append]
  omega

/-! ### Lines -/

/-- What can be delivered: the bytes up to a newline or to a fault, with the fault. -/
structure Piece where
  raw : Bytes
  fault : Option Fault
  rest : Reader

/-- The fault that loses the bytes read so far, if there is one: any but the end of the input. -/
def Piece.interruption? (p : Piece) : Option Fault := p.fault.filter fun f => !f.isEnd

/-- How many more times the buffer can be filled before it is full or a fault is pending. -/
def fillsLeft (r : Reader) : Nat :=
  (bufferSize - r.buffered.length) + (if r.pending.isNone then 1 else 0)

/-- The bytes moved out of full buffers, of which the last comes first, and more behind them. -/
def gather (aside : List Bytes) (bytes : Bytes) : Bytes := (bytes :: aside).reverse.flatten

/-- Reads on to the next newline or fault, behind bytes that were moved out of full buffers. -/
def readOn (aside : List Bytes) (r : Reader) : Piece :=
  match r.buffered.splitLine? with
  | some (line, rest) => ⟨gather aside line, none, { r with buffered := rest }⟩
  | none =>
    match _hp : r.pending with
    | some fault =>
      ⟨gather aside r.buffered, some fault, { r with buffered := [], pending := none }⟩
    | none =>
      if _hb : bufferSize ≤ r.buffered.length then
        readOn (r.buffered :: aside) { r with buffered := [] }
      else readOn aside r.fill
termination_by (r.bytesLeft, r.fillsLeft)
decreasing_by
  · apply Prod.Lex.left
    simp only [bytesLeft, List.length_nil]
    simp only [bufferSize] at _hb
    omega
  · rw [bytesLeft_fill]
    apply Prod.Lex.right
    have hle := r.buffered_fill_le
    unfold fillsLeft
    cases hf : r.fill.pending with
    | some _ => simp [_hp]; omega
    | none =>
      have hlt := r.buffered_fill_lt hf
      simp [_hp]; omega

/-- Gives a final answer, which every later call repeats. -/
def stop (r : Reader) (e : ReadError) : Except ReadError Line × Reader :=
  (.error e, { r with final := some e })

/-- The next line, or the final answer. -/
def next (r : Reader) : Except ReadError Line × Reader :=
  match r.final with
  | some e => (.error e, r)
  | none =>
    let piece := r.readOn []
    match piece.interruption? with
    | some fault => piece.rest.stop (.atLine (r.delivered + 1) fault)
    | none =>
      if piece.raw = [] then piece.rest.stop .endOfInput
      else
        (.ok ⟨r.delivered + 1, piece.raw, classify piece.raw⟩,
          { piece.rest with delivered := r.delivered + 1 })

/-! ### The whole policy -/

theorem splitLine?_length : ∀ {s line rest : Bytes}, s.splitLine? = some (line, rest) →
    line.length + rest.length = s.length
  | [], _, _, h => by simp [Bytes.splitLine?] at h
  | b :: s, line, rest, h => by
    unfold Bytes.splitLine? at h
    split at h
    · obtain ⟨rfl, rfl⟩ := Prod.mk.inj (Option.some.inj h)
      simp [Nat.add_comm]
    · obtain ⟨⟨l, r⟩, hs, he⟩ := Option.map_eq_some_iff.mp h
      obtain ⟨rfl, rfl⟩ := Prod.mk.inj he
      have := splitLine?_length hs
      simp only [List.length_cons]
      omega

theorem gather_length (aside : List Bytes) (bytes : Bytes) :
    (gather aside bytes).length = aside.flatten.length + bytes.length := by
  induction aside generalizing bytes with
  | nil => simp [gather]
  | cons piece aside ih =>
    have h := ih piece
    simp only [gather, List.reverse_cons, List.flatten_append, List.flatten_cons,
      List.flatten_nil, List.length_append, List.length_nil] at h ⊢
    omega

/-- Reading loses no byte: what is not delivered is still to come. -/
theorem bytesLeft_readOn (aside : List Bytes) (r : Reader) :
    (r.readOn aside).raw.length + (r.readOn aside).rest.bytesLeft
      = aside.flatten.length + r.bytesLeft := by
  fun_induction readOn aside r with
  | case1 aside r line rest h =>
    have := splitLine?_length h
    simp only [bytesLeft, gather_length]
    omega
  | case2 aside r h fault hp =>
    simp only [bytesLeft, gather_length, List.length_nil]
    omega
  | case3 aside r h hp hb ih =>
    rw [ih]
    simp only [bytesLeft, List.flatten_cons, List.length_append, List.length_nil]
    omega
  | case4 aside r h hp hb ih => rw [ih, bytesLeft_fill]

/-- Each line that a reader delivers takes bytes away from what is left. -/
theorem bytesLeft_next {r r' : Reader} {line : Line} (h : r.next = (.ok line, r')) :
    r'.bytesLeft < r.bytesLeft := by
  have hb := bytesLeft_readOn [] r
  unfold next at h
  split at h
  · simp at h
  · simp only at h
    split at h
    · simp [stop] at h
    · split at h
      · simp [stop] at h
      · next hne =>
        obtain ⟨_, rfl⟩ := Prod.mk.inj h
        have := List.length_pos_iff.mpr hne
        simp only [List.flatten_nil, List.length_nil, Nat.zero_add] at hb
        simp only [bytesLeft] at hb ⊢
        omega

/-- The lines already read, of which the last comes first, then all that are still to come, and the
    final answer behind them. -/
def linesOnto (done : List Line) (r : Reader) : List Line × ReadError :=
  match _h : r.next with
  | (.ok line, r') => linesOnto (line :: done) r'
  | (.error e, _) => (done.reverse, e)
termination_by r.bytesLeft
decreasing_by exact bytesLeft_next _h

/-- All lines that are still to come, and the final answer behind them. -/
def lines (r : Reader) : List Line × ReadError := linesOnto [] r

theorem linesOnto_of_ok {r r' : Reader} {line : Line} (h : r.next = (.ok line, r'))
    (done : List Line) : r.linesOnto done = r'.linesOnto (line :: done) := by
  rw [linesOnto]
  split <;> simp_all

theorem linesOnto_of_error {r r' : Reader} {e : ReadError} (h : r.next = (.error e, r'))
    (done : List Line) : r.linesOnto done = (done.reverse, e) := by
  rw [linesOnto]
  split <;> simp_all

theorem linesOnto_eq (done : List Line) (r : Reader) :
    r.linesOnto done = (done.reverse ++ r.lines.1, r.lines.2) := by
  induction hn : r.bytesLeft using Nat.strongRecOn generalizing done r with
  | _ n ih =>
    match h : r.next with
    | (.ok line, r') =>
      have hlt := hn ▸ bytesLeft_next h
      simp [lines, linesOnto_of_ok h, ih _ hlt (line :: done) r' rfl, ih _ hlt [line] r' rfl]
    | (.error e, r') => simp [lines, linesOnto_of_error h]

/-- A reader that delivers a line has that line and then those of the reader behind it. -/
theorem lines_of_ok {r r' : Reader} {line : Line} (h : r.next = (.ok line, r')) :
    r.lines = (line :: r'.lines.1, r'.lines.2) := by
  rw [lines, linesOnto_of_ok h, linesOnto_eq]
  rfl

/-- A reader that gives its final answer has no lines. -/
theorem lines_of_error {r r' : Reader} {e : ReadError} (h : r.next = (.error e, r')) :
    r.lines = ([], e) := linesOnto_of_error h []

end Reader

/-- The lines of a source, and the answer behind the last of them. -/
def readLines (s : Source) : List Line × ReadError := Reader.lines { source := s }

end SyscallFilter.Policy
