import SyscallFilter.Policy.Reader

/-! What a reader delivers does not depend on how its bytes arrive. A source is flattened into one
    stream of events, bytes and faults in the order in which reads give them, and a plain reader
    walks over that stream with nothing but the line so far in its hand:

        byte, not a newline      the line grows
        newline                  the line is complete
        end, line not empty      the line is complete, and reading goes on
        end, line empty          the final answer
        any other fault          the line is lost; the final answer

    `lines_eq_read` proves that the buffered reader gives the same lines and the same final answer:
    a buffer that is filled, emptied or moved aside leaves the stream ahead of it as it was. -/

namespace SyscallFilter.Policy

open SyscallFilter

/-! ### The stream of a source -/

/-- One thing that reading comes upon. -/
inductive Event where
  | byte (b : UInt8)
  | fault (f : Fault)
  deriving DecidableEq

/-- Bytes, and the fault behind them if there is one. -/
def eventsOf (data : Bytes) (fault : Option Fault) : List Event :=
  data.map .byte ++ fault.toList.map .fault

/-- After how many reads in a row that give nothing there is no progress. -/
def idleLimit : Nat := 100

/-- The events of a source, of which the last `idle` reads gave nothing. -/
def Source.events (idle : Nat) : Source → List Event
  | [] => []
  | c :: rest =>
    if c.data = [] ∧ c.fault = none then
      if idle + 1 = idleLimit then .fault .noProgress :: events 0 rest
      else events (idle + 1) rest
    else eventsOf c.data c.fault ++ events 0 rest

/-! ### The plain reader -/

/-- The line with the given number and bytes. -/
def lineOf (number : Nat) (raw : Bytes) : Line := ⟨number, raw, classify raw⟩

/-- A line in front of the lines and the final answer behind it. -/
def ahead (line : Line) (later : List Line × ReadError) : List Line × ReadError :=
  (line :: later.1, later.2)

/-- The lines in a stream of events and the final answer, when `k` lines were delivered before and
    `part` is the line so far. Behind the last event the input ends. -/
def read (k : Nat) (part : Bytes) : List Event → List Line × ReadError
  | [] => if part = [] then ([], .endOfInput) else ([lineOf (k + 1) part], .endOfInput)
  | .byte b :: rest =>
    if b = Bytes.newline then ahead (lineOf (k + 1) (part ++ [b])) (read (k + 1) [] rest)
    else read k (part ++ [b]) rest
  | .fault f :: rest =>
    if f.isEnd then
      if part = [] then ([], .endOfInput) else ahead (lineOf (k + 1) part) (read (k + 1) [] rest)
    else ([], .atLine (k + 1) f)

/-- The answers to `n` calls: the lines, and then the final answer again and again. -/
def answersTo (n : Nat) (lines : List Line × ReadError) : List (Except ReadError Line) :=
  (lines.1.map Except.ok ++ List.replicate n (Except.error lines.2)).take n

theorem answersTo_nil (n : Nat) (e : ReadError) :
    answersTo (n + 1) ([], e) = .error e :: answersTo n ([], e) := by
  simp [answersTo, List.replicate_succ]

theorem answersTo_ahead (n : Nat) (line : Line) (later : List Line × ReadError) :
    answersTo (n + 1) (ahead line later) = .ok line :: answersTo n later := by
  simp only [answersTo, ahead, List.map_cons, List.cons_append, List.take_succ_cons,
    List.take_append, List.take_replicate, List.length_map]
  congr 3
  omega

/-! ### Walking over events -/

/-- An end of the input behind the last event changes nothing. -/
theorem read_append_end {f : Fault} (hf : f.isEnd = true) :
    ∀ (k : Nat) (part : Bytes) (es : List Event),
    read k part (es ++ [.fault f]) = read k part es
  | k, part, [] => by
    by_cases hp : part = []
    · simp [read, hf, hp]
    · simp [read, hf, hp, ahead]
  | k, part, .byte b :: rest => by
    simp only [List.cons_append, read]
    rw [read_append_end hf (k + 1) [] rest, read_append_end hf k (part ++ [b]) rest]
  | k, part, .fault f' :: rest => by
    simp only [List.cons_append, read]
    rw [read_append_end hf (k + 1) [] rest]

/-- Bytes behind which a fault comes that is not the end of the input never come to the end. -/
theorem read_interrupted {f : Fault} (hf : f.isEnd = false) :
    ∀ (k : Nat) (part bytes : Bytes),
    ∃ number, (read k part (bytes.map .byte ++ [.fault f])).2 = .atLine number f
  | k, part, [] => ⟨k + 1, by simp [read, hf]⟩
  | k, part, b :: bytes => by
    rw [List.map_cons, List.cons_append, read]
    split
    · exact read_interrupted hf (k + 1) [] bytes
    · exact read_interrupted hf k (part ++ [b]) bytes

/-- Bytes without a newline join the line so far. -/
theorem read_bytes_of_none : ∀ {bytes : Bytes} (k : Nat) (part : Bytes) (es : List Event),
    bytes.splitLine? = none → read k part (bytes.map .byte ++ es) = read k (part ++ bytes) es
  | [], k, part, es, _ => by simp
  | b :: bytes, k, part, es, h => by
    unfold Bytes.splitLine? at h
    split at h
    · exact absurd h (by simp)
    · next hb =>
      rw [List.map_cons, List.cons_append, read, if_neg hb,
        read_bytes_of_none k (part ++ [b]) es (Option.map_eq_none_iff.mp h),
        List.append_assoc, List.singleton_append]

/-- Bytes with a newline complete the line so far. -/
theorem read_bytes_of_some : ∀ {bytes line rest : Bytes} (k : Nat) (part : Bytes) (es : List Event),
    bytes.splitLine? = some (line, rest) → read k part (bytes.map .byte ++ es) =
      ahead (lineOf (k + 1) (part ++ line)) (read (k + 1) [] (rest.map .byte ++ es))
  | [], _, _, _, _, _, h => by simp [Bytes.splitLine?] at h
  | b :: bytes, line, rest, k, part, es, h => by
    unfold Bytes.splitLine? at h
    rw [List.map_cons, List.cons_append, read]
    split at h
    · next hb =>
      obtain ⟨rfl, rfl⟩ := Prod.mk.inj (Option.some.inj h)
      rw [if_pos hb]
    · next hb =>
      obtain ⟨⟨l, r⟩, hs, he⟩ := Option.map_eq_some_iff.mp h
      obtain ⟨rfl, rfl⟩ := Prod.mk.inj he
      rw [if_neg hb, read_bytes_of_some k (part ++ [b]) es hs, List.append_assoc,
        List.singleton_append]

theorem splitLine?_ne_nil {bytes line rest : Bytes} (h : bytes.splitLine? = some (line, rest)) :
    line ≠ [] := by
  cases bytes with
  | nil => simp [Bytes.splitLine?] at h
  | cons b bytes =>
    unfold Bytes.splitLine? at h
    split at h
    · rw [← (Prod.mk.inj (Option.some.inj h)).1]
      exact List.cons_ne_nil _ _
    · obtain ⟨p, -, he⟩ := Option.map_eq_some_iff.mp h
      rw [← (Prod.mk.inj he).1]
      exact List.cons_ne_nil _ _

/-! ### Reads keep the stream -/

namespace Source

/-- A read of a chunk that holds something gives the next events of the stream. -/
theorem events_read {room : Nat} {c : Chunk} (hc : ¬ (c.data = [] ∧ c.fault = none)) (idle : Nat)
    (rest : Source) :
    eventsOf (read room (c :: rest)).data (read room (c :: rest)).fault ++
      (read room (c :: rest)).rest.events 0 = events idle (c :: rest) := by
  rw [events, if_neg hc]
  by_cases hd : (c.data.drop room).isEmpty
  · simp [read, hd]
  · have hne : c.data.drop room ≠ [] := by simpa using hd
    have hmore : ¬ (c.data.drop room = [] ∧ c.fault = none) := fun h => hne h.1
    simp only [read, hd, Bool.false_eq_true, if_false, events, if_neg hmore]
    simp only [eventsOf, Option.toList_none, List.map_nil, List.append_nil]
    rw [← List.append_assoc, ← List.append_assoc, ← List.map_append, List.take_append_drop]

/-- A read that gives nothing has come upon a chunk that holds nothing. -/
theorem idle_of_read {room : Nat} (hroom : 0 < room) {c : Chunk} {rest rest' : Source}
    (h : read room (c :: rest) = ⟨[], none, rest'⟩) : c.data = [] ∧ c.fault = none := by
  by_cases hd : (c.data.drop room).isEmpty
  · simp only [read, hd, if_true] at h
    exact ⟨congrArg Read.data h, congrArg Read.fault h⟩
  · simp only [read, hd, Bool.false_eq_true, if_false] at h
    have ht : c.data.take room = [] := congrArg Read.data h
    rcases List.take_eq_nil_iff.mp ht with h0 | hn
    · omega
    · rw [hn] at hd
      simp at hd

/-- Reading until there is something gives the next events of the stream; at its end it adds an end
    of the input, which the stream has there anyway. -/
theorem events_readSome {room : Nat} (hroom : 0 < room) : ∀ (attempts idle : Nat) (s : Source),
    0 < attempts → idle + attempts = idleLimit →
    ∃ ends, (ends = [] ∨ ends = [.fault .endOfInput]) ∧
      eventsOf (s.readSome room attempts).data (s.readSome room attempts).fault ++
        (s.readSome room attempts).rest.events 0 = s.events idle ++ ends
  | 0, _, _, h, _ => absurd h (Nat.lt_irrefl 0)
  | attempts + 1, idle, [], _, _ => by
    refine ⟨[.fault .endOfInput], Or.inr rfl, ?_⟩
    simp [readSome, read, eventsOf, events]
  | attempts + 1, idle, c :: rest, _, hsum => by
    by_cases hc : c.data = [] ∧ c.fault = none
    · -- The stream goes on with the next chunk, unless the attempts are used up.
      have hread : readSome room (attempts + 1) (c :: rest) = readSome room attempts rest := by
        simp [readSome, read, hc.1, hc.2]
      rw [hread, events, if_pos hc]
      by_cases ha : attempts = 0
      · subst ha
        refine ⟨[], Or.inl rfl, ?_⟩
        rw [if_pos (by omega)]
        simp [readSome, eventsOf]
      · rw [if_neg (by omega)]
        exact events_readSome hroom attempts (idle + 1) rest (by omega) (by omega)
    · have hread : readSome room (attempts + 1) (c :: rest) = read room (c :: rest) := by
        rw [readSome]
        split
        · next hr => exact absurd (idle_of_read hroom hr) hc
        · rfl
      refine ⟨[], Or.inl rfl, ?_⟩
      rw [hread, events_read hc idle rest, List.append_nil]

end Source

namespace Reader

/-- The stream ahead of a reader: its buffer, the fault that waits, and the rest of its source. -/
def events (r : Reader) : List Event := eventsOf r.buffered r.pending ++ r.source.events 0

/-- Filling the buffer keeps what is to be read. -/
theorem read_fill {r : Reader} (hp : r.pending = none) (hb : ¬ bufferSize ≤ r.buffered.length)
    (k : Nat) (part : Bytes) : read k part r.fill.events = read k part r.events := by
  have hfill : r.fill.events = r.buffered.map .byte ++
      (eventsOf (r.source.readSome (bufferSize - r.buffered.length) maxEmptyReads).data
          (r.source.readSome (bufferSize - r.buffered.length) maxEmptyReads).fault ++
        (r.source.readSome (bufferSize - r.buffered.length) maxEmptyReads).rest.events 0) := by
    simp [events, fill, eventsOf]
  have hr : r.events = r.buffered.map .byte ++ r.source.events 0 := by
    simp [events, eventsOf, hp]
  have hroom : 0 < bufferSize - r.buffered.length := by omega
  obtain ⟨ends, hends, h⟩ := Source.events_readSome hroom maxEmptyReads 0 r.source (by decide) rfl
  rw [hfill, hr, h]
  rcases hends with rfl | rfl
  · rw [List.append_nil]
  · rw [← List.append_assoc, read_append_end rfl]

theorem gather_cons (aside : List Bytes) (bytes : Bytes) :
    gather (bytes :: aside) [] = gather aside bytes := by
  simp [gather]

theorem gather_eq (aside : List Bytes) (bytes : Bytes) :
    gather aside bytes = gather aside [] ++ bytes := by
  simp [gather]

/-- What a piece means to a reader that has delivered `k` lines. -/
def Piece.lines (k : Nat) (p : Piece) : List Line × ReadError :=
  match p.interruption? with
  | some fault => ([], .atLine (k + 1) fault)
  | none =>
    if p.raw = [] then ([], .endOfInput)
    else ahead (lineOf (k + 1) p.raw) (read (k + 1) [] p.rest.events)

/-- Reading on to the next newline or fault is a walk over the stream, from the line that was moved
    out of full buffers. -/
theorem read_readOn (k : Nat) (aside : List Bytes) (r : Reader) :
    read k (gather aside []) r.events = (r.readOn aside).lines k := by
  fun_induction readOn aside r with
  | case1 aside r line rest h =>
    have hne : gather aside line ≠ [] := by
      rw [gather_eq]
      exact List.append_ne_nil_of_right_ne_nil _ (splitLine?_ne_nil h)
    rw [events, eventsOf, List.append_assoc, read_bytes_of_some k _ _ h, ← gather_eq]
    simp [Piece.lines, Piece.interruption?, hne, events, eventsOf]
  | case2 aside r h fault hp =>
    rw [events, eventsOf, List.append_assoc, read_bytes_of_none k _ _ h, ← gather_eq, hp]
    by_cases he : fault.isEnd
    · simp [Piece.lines, Piece.interruption?, Option.filter, read, he, events, eventsOf]
    · simp [Piece.lines, Piece.interruption?, Option.filter, read, he]
  | case3 aside r h hp hb ih =>
    rw [← ih, gather_cons, events, eventsOf, List.append_assoc, read_bytes_of_none k _ _ h,
      ← gather_eq]
    simp [events, eventsOf, hp]
  | case4 aside r h hp hb ih => rw [← ih, read_fill hp hb]

/-! ### Calls -/

/-- Reading on does not touch the final answer. -/
theorem final_readOn (aside : List Bytes) (r : Reader) : (r.readOn aside).rest.final = r.final := by
  fun_induction readOn aside r with
  | case1 => rfl
  | case2 => rfl
  | case3 aside r h hp hb ih => exact ih
  | case4 aside r h hp hb ih => exact ih

/-- One call of a reader that has not given its final answer. -/
theorem next_cases {r : Reader} (h : r.final = none) :
    (∃ e r', r.next = (.error e, r') ∧ read r.delivered [] r.events = ([], e) ∧
      r'.final = some e) ∨
    (∃ line r', r.next = (.ok line, r') ∧ r'.final = none ∧
      read r.delivered [] r.events = ahead line (read r'.delivered [] r'.events)) := by
  have hwalk : read r.delivered [] r.events = (r.readOn []).lines r.delivered :=
    read_readOn r.delivered [] r
  have hfinal : (r.readOn []).rest.final = none := by rw [← h]; exact final_readOn [] r
  rw [hwalk]
  unfold next
  rw [h]
  unfold Piece.lines
  cases hi : (r.readOn []).interruption? with
  | some fault => exact Or.inl ⟨_, _, by simp only [hi]; rfl, rfl, rfl⟩
  | none =>
    by_cases hraw : (r.readOn []).raw = []
    · simp only [hi, if_pos hraw]
      exact Or.inl ⟨_, _, rfl, rfl, rfl⟩
    · simp only [hi, if_neg hraw]
      exact Or.inr ⟨_, _, rfl, hfinal, rfl⟩

theorem next_of_final {r : Reader} {e : ReadError} (h : r.final = some e) :
    r.next = (.error e, r) := by
  unfold next
  rw [h]

/-- A reader that has given its final answer gives it again and stays as it is. -/
theorem next_of_error {r r' : Reader} {e : ReadError} (h : r.next = (.error e, r')) :
    r'.next = (.error e, r') := by
  cases hf : r.final with
  | some e' =>
    obtain ⟨he, rfl⟩ := Prod.mk.inj ((next_of_final hf).symm.trans h)
    exact h
  | none =>
    rcases next_cases hf with ⟨e', r'', hnext, -, hfinal⟩ | ⟨line, r'', hnext, -, -⟩
    · obtain ⟨he, rfl⟩ := Prod.mk.inj (hnext.symm.trans h)
      rw [next_of_final hfinal, he]
    · exact absurd (hnext.symm.trans h) (by simp)

/-- The buffered reader gives the lines of the stream ahead of it, and the same final answer. -/
theorem lines_eq_read (r : Reader) (h : r.final = none) :
    r.lines = read r.delivered [] r.events := by
  induction hn : r.bytesLeft using Nat.strongRecOn generalizing r with
  | _ n ih =>
    rcases next_cases h with ⟨e, r', hnext, hread, -⟩ | ⟨line, r', hnext, hfinal, hread⟩
    · rw [lines_of_error hnext, hread]
    · rw [lines_of_ok hnext, hread, ih r'.bytesLeft (hn ▸ bytesLeft_next hnext) r' hfinal rfl]
      rfl

/-- Reading a source delivers the lines of its stream. -/
theorem readLines_eq_read (s : Source) : readLines s = read 0 [] (s.events 0) := by
  rw [readLines, lines_eq_read _ rfl]
  rfl

/-- The answers to a number of calls. -/
def answers : (n : Nat) → Reader → List (Except ReadError Line)
  | 0, _ => []
  | n + 1, r => r.next.1 :: answers n r.next.2

/-- The reader behind a number of calls. -/
def after : (n : Nat) → Reader → Reader
  | 0, r => r
  | n + 1, r => after n r.next.2

/-- The calls of a reader give its lines, and then its final answer again and again. -/
theorem answers_eq_lines : ∀ (n : Nat) (r : Reader), answers n r = answersTo n r.lines
  | 0, r => by simp [answers, answersTo]
  | n + 1, r => by
    rw [answers, answers_eq_lines n]
    match h : r.next with
    | (.ok line, r') => rw [lines_of_ok h]; exact (answersTo_ahead n line r'.lines).symm
    | (.error e, r') =>
      rw [lines_of_error h, lines_of_error (next_of_error h)]
      exact (answersTo_nil n e).symm

theorem after_of_error {r : Reader} {e : ReadError} (h : r.next = (.error e, r)) :
    ∀ m, after m r = r
  | 0 => rfl
  | m + 1 => by
    rw [after, h]
    exact after_of_error h m

theorem after_add : ∀ (n m : Nat) (r : Reader), after (n + m) r = after m (after n r)
  | 0, m, r => by rw [Nat.zero_add, after]
  | n + 1, m, r => by rw [Nat.add_right_comm, after, after, after_add n m]

/-- However its bytes arrive, a reader answers as the plain reader does on the stream of its source:
    bytes and faults in order. Once it has answered with an error it neither reads its source again
    nor changes in any other way. -/
theorem answers_eq_read (s : Source) (n : Nat) :
    answers n { source := s } = answersTo n (read 0 [] (s.events 0)) ∧
    (∀ e, (after n { source := s }).next.1 = .error e →
      ∀ m, after (n + 1 + m) { source := s } = after (n + 1) { source := s }) ∧
    ReadError.endOfInput.message = utf8 "EOF" ∧
    (∀ k f, (ReadError.atLine k f).message =
      utf8 "read policy line " ++ Numeral.decimal k ++ utf8 ": " ++ f.message) := by
  refine ⟨?_, ?_, rfl, fun _ _ => rfl⟩
  · rw [answers_eq_lines, lines_eq_read _ rfl]
    rfl
  · intro e he m
    have hstuck := next_of_error (Prod.ext he rfl : (after n { source := s }).next = (.error e, _))
    rw [after_add, after_add n 1]
    exact after_of_error hstuck m

end Reader

end SyscallFilter.Policy
