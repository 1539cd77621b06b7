import SyscallFilter.Compile
import SyscallFilter.Proofs.Reading

/-! Reading ends, and with it compilation. Every line that a reader delivers takes at least one byte
    from what is left in its source and in its buffer, however many chunks hold nothing, come behind
    an end of the input or fail. So there are at most as many lines as there are bytes, and behind
    them stands the final answer.

    A compilation is then looked at as a loop that reads one line, takes it in and goes on:

        next ──▶ a line ──▶ add ──▶ taken in ──▶ next …
                              └──▶ not taken in: ends with an error
             └─▶ the end: emits the filter          any other fault: ends with an error

    The loop comes to its end within one turn more than there are bytes, and gives what compiling
    all lines at once gives. -/

namespace SyscallFilter

open Policy

/-! ### Calls of a reader -/

namespace Policy.Reader

/-- There are not more lines to come than bytes. -/
theorem length_lines_le (r : Reader) : r.lines.1.length ≤ r.bytesLeft := by
  induction hn : r.bytesLeft using Nat.strongRecOn generalizing r with
  | _ n ih =>
    match h : r.next with
    | (.ok line, r') =>
      have hlt : r'.bytesLeft < n := hn ▸ bytesLeft_next h
      have hrest := ih _ hlt r' rfl
      rw [lines_of_ok h, List.length_cons]
      omega
    | (.error e, r') =>
      rw [lines_of_error h]
      exact Nat.zero_le n

/-- The answer of a reader behind a number of calls: the line at that place, or the final answer
    where there is none. -/
theorem next_after : ∀ (i : Nat) (r : Reader),
    (after i r).next.1 = (r.lines.1[i]?.map Except.ok).getD (.error r.lines.2)
  | 0, r => by
    change r.next.1 = _
    match h : r.next with
    | (.ok line, r') =>
      rw [lines_of_ok h]
      rfl
    | (.error e, r') =>
      rw [lines_of_error h]
      rfl
  | i + 1, r => by
    match h : r.next with
    | (.ok line, r') =>
      rw [after, h, next_after i r', lines_of_ok h]
      rfl
    | (.error e, r') =>
      rw [after, h, next_after i r', lines_of_error h, lines_of_error (next_of_error h)]
      rfl

end Policy.Reader

/-! ### Turns of a compilation -/

namespace Draft

/-- How one turn of a compilation ends. -/
inductive Turn where
  | goesOn (reader : Reader) (draft : Draft)
  | ends (report : Report)

/-- One turn of a compilation: a line is read and taken in, or the compilation ends. -/
def turn (emitter : Emitter) (resolver : Resolver) (r : Reader) (d : Draft) : Turn :=
  match r.next with
  | (.ok line, r') =>
    match d.add resolver line with
    | .ok d' => .goesOn r' d'
    | .error e => .ends ⟨d.log.reverse, .error e⟩
  | (.error .endOfInput, _) => .ends ⟨d.log.reverse, d.finish emitter⟩
  | (.error fault, _) => .ends ⟨d.log.reverse, .error (.read fault)⟩

/-- At most `turns` turns of a compilation; none if it has not ended by then. -/
def loop (emitter : Emitter) (resolver : Resolver) : (turns : Nat) → Reader → Draft → Option Report
  | 0, _, _ => none
  | turns + 1, r, d =>
    match d.turn emitter resolver r with
    | .goesOn r' d' => loop emitter resolver turns r' d'
    | .ends report => some report

/-- What a compilation gives when the rest of its source delivers `lines` and then `answer`. -/
def report (emitter : Emitter) (resolver : Resolver) (d : Draft) (lines : List Line)
    (answer : ReadError) : Report :=
  let (draft, problem) := addAll resolver d lines
  { log := draft.log.reverse
    outcome :=
      match problem, answer with
      | some e, _ => .error e
      | none, .endOfInput => draft.finish emitter
      | none, fault => .error (.read fault) }

variable {emitter : Emitter} {resolver : Resolver}

theorem report_of_ok {d d' : Draft} {line : Line} (h : d.add resolver line = .ok d')
    (lines : List Line) (answer : ReadError) :
    report emitter resolver d (line :: lines) answer =
      report emitter resolver d' lines answer := by
  simp only [report, addAll, h]

theorem report_of_error {d : Draft} {line : Line} {e : CompileError}
    (h : d.add resolver line = .error e) (lines : List Line) (answer : ReadError) :
    report emitter resolver d (line :: lines) answer = ⟨d.log.reverse, .error e⟩ := by
  simp only [report, addAll, h]

/-- With more turns than there are bytes left, a compilation comes to its end, and has taken in the
    lines up to the first that cannot be taken in. -/
theorem loop_eq_report : ∀ {turns : Nat} {r : Reader} (d : Draft), r.bytesLeft < turns →
    loop emitter resolver turns r d = some (report emitter resolver d r.lines.1 r.lines.2)
  | 0, _, _, h => absurd h (Nat.not_lt_zero _)
  | turns + 1, r, d, h => by
    match hnext : r.next with
    | (.ok line, r') =>
      have hlt := Reader.bytesLeft_next hnext
      rw [Reader.lines_of_ok hnext]
      cases hadd : d.add resolver line with
      | ok d' =>
        simp only [loop, turn, hnext, hadd]
        rw [report_of_ok hadd]
        exact loop_eq_report d' (by omega)
      | error e =>
        simp only [loop, turn, hnext, hadd]
        rw [report_of_error hadd]
    | (.error .endOfInput, r') =>
      simp only [loop, turn, hnext, Reader.lines_of_error hnext]
      rfl
    | (.error (.atLine k fault), r') =>
      simp only [loop, turn, hnext, Reader.lines_of_error hnext]
      rfl

end Draft

/-! ### The end -/

/-- Every line takes bytes away, so a reader gives its final answer behind at most as many lines as
    its source has bytes, and a compilation ends after at most one turn more than that, whatever the
    source, the resolver and the form of the filter. -/
theorem reading_ends (s : Source) :
    (∀ (r r' : Reader) (line : Line), r.next = (.ok line, r') →
      r'.source.bytesLeft + r'.buffered.length < r.source.bytesLeft + r.buffered.length) ∧
    (∃ k ≤ s.bytesLeft, ∃ answer,
      (∀ i < k, ∃ line, (Reader.after i { source := s }).next.1 = .ok line) ∧
      ∀ i ≥ k, (Reader.after i { source := s }).next.1 = .error answer) ∧
    ∀ (target : Arch) (emitter : Emitter) (resolver : Resolver), ∀ turns > s.bytesLeft,
      Draft.loop emitter resolver turns { source := s } { allowlist := .empty target } =
        some (compileFor target emitter resolver s) := by
  have hleft : Reader.bytesLeft { source := s } = s.bytesLeft := Nat.add_zero _
  refine ⟨fun r r' line h => Reader.bytesLeft_next h, ?_, ?_⟩
  · refine ⟨(readLines s).1.length, hleft ▸ Reader.length_lines_le _, (readLines s).2, ?_, ?_⟩
    · intro i hi
      refine ⟨(readLines s).1[i], ?_⟩
      rw [Reader.next_after]
      change (((readLines s).1[i]?).map Except.ok).getD _ = _
      rw [List.getElem?_eq_getElem hi]
      rfl
    · intro i hi
      rw [Reader.next_after]
      change (((readLines s).1[i]?).map Except.ok).getD _ = _
      rw [List.getElem?_eq_none hi]
      rfl
  · intro target emitter resolver turns hturns
    exact Draft.loop_eq_report _ (hleft ▸ hturns)

/-- A source with a chunk that holds nothing, an end of the input with more behind it, and a failure
    that comes with bytes. -/
def restlessSource : Source :=
  [{ data := utf8 "read\nwri" }, { data := [] },
    { data := utf8 "te", fault := some .endOfInput },
    { data := utf8 "close\nop", fault := some (.failure (utf8 "input/output error")) }]

theorem reading_ends_restlessSource :
    restlessSource.bytesLeft = 18 ∧
    (∃ line r', Reader.next { source := restlessSource } = (.ok line, r') ∧
      r'.source.bytesLeft + r'.buffered.length < 18) ∧
    (∃ k ≤ 18, ∃ answer,
      (Reader.after k { source := restlessSource }).next.1 = .error answer) ∧
    Draft.loop .linear (Arch.ofPlatform Arch.host .x8664).resolve 19 { source := restlessSource }
        { allowlist := .empty (.ofPlatform Arch.host .x8664) } =
      some (compileFor (.ofPlatform Arch.host .x8664) .linear
        (Arch.ofPlatform Arch.host .x8664).resolve restlessSource) := by
  have hbytes : restlessSource.bytesLeft = 18 := by decide +kernel
  have hlines : (readLines restlessSource).1 ≠ [] := by
    rw [Reader.readLines_eq_read]
    decide +kernel
  obtain ⟨hless, ⟨k, hk, answer, -, hanswer⟩, hloop⟩ := reading_ends restlessSource
  refine ⟨hbytes, ?_, ⟨k, hbytes ▸ hk, answer, hanswer k (Nat.le_refl k)⟩,
    hloop _ _ _ 19 (by rw [hbytes]; decide)⟩
  match h : Reader.next { source := restlessSource } with
  | (.ok line, r') => exact ⟨line, r', rfl, hbytes ▸ hless _ _ _ h⟩
  | (.error e, r') => exact absurd (congrArg Prod.fst (Reader.lines_of_error h)) hlines

end SyscallFilter
