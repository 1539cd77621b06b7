import Mathlib.Data.List.Forall2
import SyscallFilter.Proofs.Lines

/-! Reading undoes rendering. A policy is rendered by ending each of its texts with a newline, of
    which the last one may be left out behind a text that is not empty. However the rendered bytes
    are cut into chunks, a reader that gets them delivers one line for each text:

        texts ──▶ rendered bytes ──▶ chunks ──▶ events ──▶ lines

    The stream of the chunks is the rendered bytes, as long as the source has no fault before its
    end and is never idle for too long; the lines of the rendered bytes are the texts with their
    newlines; and the content of a line is that of its text, unchanged. -/

namespace SyscallFilter

/-! ### Rendered texts -/

namespace Bytes

/-- Texts as lines, each ended by a newline. -/
def unlines (texts : List Bytes) : Bytes := texts.flatMap (· ++ [newline])

/-- The ways to render texts: the last newline can be left out behind a text that is not empty. -/
def Renders (texts : List Bytes) (bytes : Bytes) : Prop :=
  bytes = unlines texts ∨
    bytes ++ [newline] = unlines texts ∧ ∀ last ∈ texts.getLast?, last ≠ []

theorem splitLine?_append_newline : ∀ {text : Bytes}, newline ∉ text → ∀ rest : Bytes,
    (text ++ newline :: rest).splitLine? = some (text ++ [newline], rest)
  | [], _, rest => by simp [splitLine?]
  | b :: text, h, rest => by
    have hb : b ≠ newline := fun he => h (he ▸ List.mem_cons_self)
    have htext := splitLine?_append_newline (fun hm => h (List.mem_cons_of_mem b hm)) rest
    simp [splitLine?, hb, htext]

theorem splitLine?_eq_none : ∀ {text : Bytes}, newline ∉ text → text.splitLine? = none
  | [], _ => rfl
  | b :: text, h => by
    have hb : b ≠ newline := fun he => h (he ▸ List.mem_cons_self)
    have htext := splitLine?_eq_none fun hm => h (List.mem_cons_of_mem b hm)
    simp [splitLine?, hb, htext]

/-- The texts in front of a text are lines of their own. -/
theorem lines_unlines_append {texts : List Bytes} (h : ∀ t ∈ texts, newline ∉ t) (rest : Bytes) :
    (unlines texts ++ rest).lines = texts.map (· ++ [newline]) ++ rest.lines := by
  induction texts with
  | nil => rfl
  | cons text texts ih =>
    have hsplit := splitLine?_append_newline (h text List.mem_cons_self) (unlines texts ++ rest)
    have hbytes : unlines (text :: texts) ++ rest = text ++ newline :: (unlines texts ++ rest) := by
      simp [unlines]
    rw [hbytes, lines_of_some hsplit, ih fun t ht => h t (List.mem_cons_of_mem text ht)]
    rfl

theorem dropNewline_append_newline (text : Bytes) : dropNewline (text ++ [newline]) = text := by
  simp [dropNewline]

theorem dropNewline_of_free {text : Bytes} (h : newline ∉ text) : text.dropNewline = text := by
  rw [dropNewline, if_neg]
  exact fun hlast => h (List.mem_of_getLast? hlast)

/-- Without their newlines, the lines of a rendering are the texts. -/
theorem lines_of_renders {texts : List Bytes} (h : ∀ t ∈ texts, newline ∉ t) {bytes : Bytes}
    (hbytes : Renders texts bytes) : bytes.lines.map dropNewline = texts := by
  have hclosed : ∀ ts : List Bytes, (ts.map (· ++ [newline])).map dropNewline = ts := by
    intro ts
    rw [List.map_map]
    exact (List.map_congr_left fun t _ => dropNewline_append_newline t).trans (List.map_id ts)
  rcases hbytes with rfl | ⟨hopen, hlast⟩
  · have hlines := lines_unlines_append h []
    rw [List.append_nil] at hlines
    rw [hlines, List.map_append, hclosed]
    exact List.append_nil texts
  · -- The last text has no newline of its own; those before it have theirs.
    rcases List.eq_nil_or_concat' texts with rfl | ⟨front, last, rfl⟩
    · exact absurd hopen (by simp [unlines])
    · have hfree : newline ∉ last := h last (by simp)
      have hne : last ≠ [] := hlast last (by simp)
      have hclose : bytes ++ [newline] = unlines front ++ last ++ [newline] := by
        rw [hopen]
        simp [unlines]
      have hfront : ∀ t ∈ front, newline ∉ t := fun t ht => h t (List.mem_append_left _ ht)
      rw [List.append_cancel_right hclose, lines_unlines_append hfront,
        lines_of_none (splitLine?_eq_none hfree), if_neg hne, List.map_append, hclosed,
        List.map_singleton, dropNewline_of_free hfree]

/-- The lines of a text make up the text. -/
theorem flatten_lines (text : Bytes) : text.lines.flatten = text := by
  induction text with
  | nil => rfl
  | cons b text ih =>
    rw [lines_cons]
    unfold addToLines
    split
    · rw [List.flatten_cons, ih]
      rfl
    · split
      · next he =>
        rw [he] at ih
        rw [← ih]
        rfl
      · next line more he =>
        rw [he] at ih
        rw [← ih]
        rfl

end Bytes

namespace Policy

/-! ### Chunks without faults -/

/-- Whether a read of the chunk gives neither bytes nor a fault. -/
def Chunk.IsIdle (c : Chunk) : Prop := c.data = [] ∧ c.fault = none

namespace Source

/-- Of a hundred chunks in a row, not all are idle. -/
def Lively (s : Source) : Prop :=
  ∀ run : List Chunk, run <:+: s → run.length = 100 → ∃ c ∈ run, ¬ c.IsIdle

/-- No chunk but the last one has a fault, and a fault there is the end of the input. -/
structure Quiet (s : Source) : Prop where
  early : ∀ c ∈ s.dropLast, c.fault = none
  last : ∀ c ∈ s.getLast?, ∀ f ∈ c.fault, f.isEnd = true

/-- A source that delivers bytes, cut into chunks in any way, and then ends. -/
structure Delivers (s : Source) (bytes : Bytes) : Prop where
  data : s.flatMap (·.data) = bytes
  quiet : s.Quiet
  lively : s.Lively

theorem Quiet.tail {c : Chunk} {s : Source} (h : Quiet (c :: s)) : s.Quiet := by
  cases s with
  | nil => exact ⟨by simp, by simp⟩
  | cons c' s =>
    refine ⟨fun d hd => h.early d ?_, fun d hd => h.last d ?_⟩
    · rw [List.dropLast_cons_cons]
      exact List.mem_cons_of_mem c hd
    · rwa [List.getLast?_cons_cons]

theorem Quiet.eq_nil_of_fault {c : Chunk} {s : Source} {f : Fault} (h : Quiet (c :: s))
    (hf : c.fault = some f) : s = [] ∧ f.isEnd = true := by
  cases s with
  | nil => exact ⟨rfl, h.last c rfl f hf⟩
  | cons c' s =>
    have hnone := h.early c (by simp)
    exact absurd (hnone.symm.trans hf) (by simp)

theorem Lively.of_append (front : Source) {s : Source} (h : Lively (front ++ s)) : s.Lively := by
  intro run hrun hlen
  exact h run (hrun.trans (List.suffix_append front s).isInfix) hlen

/-- The stream of a source without early faults is its bytes, and at most the end of the input
    behind them. The chunks in front of it are those of the last reads, which gave nothing. -/
theorem events_of_quiet {s : Source} (hquiet : s.Quiet) (idle : List Chunk)
    (hidle : ∀ c ∈ idle, c.IsIdle) (hlively : Lively (idle ++ s)) :
    ∃ ends, (ends = [] ∨ ∃ f, f.isEnd = true ∧ ends = [.fault f]) ∧
      s.events idle.length = (s.flatMap (·.data)).map .byte ++ ends := by
  induction s generalizing idle with
  | nil => exact ⟨[], Or.inl rfl, rfl⟩
  | cons c rest ih =>
    by_cases hc : c.data = [] ∧ c.fault = none
    · have hmore : ∀ c' ∈ idle ++ [c], c'.IsIdle := by
        intro c' hc'
        rcases List.mem_append.mp hc' with hc' | hc'
        · exact hidle c' hc'
        · exact List.mem_singleton.mp hc' ▸ hc
      have hcount : idle.length + 1 ≠ idleLimit := by
        intro hcount
        obtain ⟨c', hc', hbusy⟩ := hlively (idle ++ [c]) ⟨[], rest, by simp⟩
          (by rw [List.length_append]; exact hcount)
        exact hbusy (hmore c' hc')
      have hrest := ih hquiet.tail (idle ++ [c]) hmore (by simpa using hlively)
      rw [events, if_pos hc, if_neg hcount, List.flatMap_cons, hc.1]
      simpa using hrest
    · rw [events, if_neg hc, List.flatMap_cons]
      cases hf : c.fault with
      | none =>
        obtain ⟨ends, hends, hrest⟩ := ih hquiet.tail [] (by simp)
          (Lively.of_append (idle ++ [c]) (by simpa using hlively))
        refine ⟨ends, hends, ?_⟩
        rw [List.length_nil] at hrest
        simp [hrest, eventsOf]
      | some f =>
        obtain ⟨rfl, hend⟩ := hquiet.eq_nil_of_fault hf
        exact ⟨[.fault f], Or.inr ⟨f, hend, rfl⟩, by simp [events, eventsOf]⟩

end Source

/-- A reader delivers the lines of the bytes that its source delivers. -/
theorem readLines_of_delivers {s : Source} {bytes : Bytes} (h : s.Delivers bytes) :
    readLines s = (numbered 0 bytes.lines, .endOfInput) := by
  obtain ⟨ends, hends, hevents⟩ := Source.events_of_quiet h.quiet [] (by simp) h.lively
  rw [List.length_nil, h.data] at hevents
  rw [Reader.readLines_eq_read, hevents, ← read_text]
  rcases hends with rfl | ⟨f, hf, rfl⟩
  · rw [List.append_nil]
  · exact read_append_end hf 0 [] _

/-! ### Lines that show their texts -/

/-- What the line of a text has to say about it. -/
def Line.Shows (line : Line) (text : Bytes) : Prop :=
  if text = [] then line.content.kind = .blank ∧ line.content.name = []
  else if text.head? = some (Bytes.ascii '#') then
    line.content.kind = .comment ∧ line.content.name = []
  else line.content.kind = .syscall ∧ line.content.name = text

theorem numbers_numbered (k : Nat) (raws : List Bytes) :
    (numbered k raws).map (·.number) = List.range' (k + 1) raws.length := by
  induction raws generalizing k with
  | nil => rfl
  | cons raw rest ih => exact congrArg ((k + 1) :: ·) (ih (k + 1))

theorem raws_numbered (k : Nat) (raws : List Bytes) : (numbered k raws).map (·.raw) = raws := by
  induction raws generalizing k with
  | nil => rfl
  | cons raw rest ih => exact congrArg (raw :: ·) (ih (k + 1))

theorem shows_lineOf (k : Nat) (raw : Bytes) : (lineOf k raw).Shows raw.dropNewline := by
  unfold Line.Shows lineOf classify
  cases raw.dropNewline with
  | nil => exact ⟨rfl, rfl⟩
  | cons b rest =>
    by_cases hb : b = Bytes.ascii '#'
    · simp [Content.ofText, Content.kind, Content.name, hb]
    · simp [Content.ofText, Content.kind, Content.name, hb]

theorem shows_numbered (k : Nat) (raws : List Bytes) :
    List.Forall₂ Line.Shows (numbered k raws) (raws.map Bytes.dropNewline) := by
  induction raws generalizing k with
  | nil => exact .nil
  | cons raw rest ih => exact .cons (shows_lineOf (k + 1) raw) (ih (k + 1))

/-- However the rendering of texts is cut into chunks, a reader answers with one line for each text,
    numbered from one on, and then reports the end of the input again and again. No byte is lost,
    and a name is the text of its line, unchanged. -/
theorem answers_of_renders {texts : List Bytes} (hfree : ∀ t ∈ texts, Bytes.newline ∉ t)
    {bytes : Bytes} (hbytes : Bytes.Renders texts bytes) {s : Source} (hs : s.Delivers bytes) :
    ∃ lines : List Line,
      (∀ n, Reader.answers n { source := s } =
        (lines.map Except.ok ++ List.replicate n (Except.error ReadError.endOfInput)).take n) ∧
      lines.map (·.number) = List.range' 1 texts.length ∧
      (lines.map (·.raw)).flatten = bytes ∧
      List.Forall₂ Line.Shows lines texts := by
  have htexts := Bytes.lines_of_renders hfree hbytes
  refine ⟨numbered 0 bytes.lines, ?_, ?_, ?_, ?_⟩
  · intro n
    rw [Reader.answers_eq_lines]
    exact congrArg (answersTo n) (readLines_of_delivers hs)
  · rw [numbers_numbered, ← htexts, List.length_map]
  · rw [raws_numbered, Bytes.flatten_lines]
  · rw [← htexts]
    exact shows_numbered 0 bytes.lines

/-- A name that is longer than the buffer of a reader. -/
def longName : Bytes := List.replicate 5000 (Bytes.ascii 'a')

/-- A policy with a long name and without its last newline, cut in the middle of two lines. -/
def choppedSource : Source :=
  [{ data := longName.take 4500 }, { data := [] },
    { data := longName.drop 4500 ++ utf8 "\n\n# e" },
    { data := utf8 "nd", fault := some .endOfInput }]

theorem answers_of_renders_chopped :
    (∀ t ∈ [longName, [], utf8 "# end"], Bytes.newline ∉ t) ∧
    Bytes.Renders [longName, [], utf8 "# end"] (longName ++ utf8 "\n\n# end") ∧
    choppedSource.Delivers (longName ++ utf8 "\n\n# end") ∧
    ∃ lines : List Line,
      Reader.answers 5 { source := choppedSource } =
        lines.map Except.ok ++ [.error .endOfInput, .error .endOfInput] ∧
      lines.map (fun line => (line.number, line.content.kind, line.content.name)) =
        [(1, .syscall, longName), (2, .blank, []), (3, .comment, [])] := by
  have hfree : ∀ t ∈ [longName, [], utf8 "# end"], Bytes.newline ∉ t := by
    have hlong : Bytes.newline ∉ longName := by
      intro h
      exact absurd (List.eq_of_mem_replicate h) (by decide)
    have hrest : ∀ t ∈ [[], utf8 "# end"], Bytes.newline ∉ t := by decide +kernel
    exact List.forall_mem_cons.mpr ⟨hlong, hrest⟩
  have hrenders : Bytes.Renders [longName, [], utf8 "# end"] (longName ++ utf8 "\n\n# end") := by
    have htail : utf8 "\n\n# end" ++ [Bytes.newline] =
        [Bytes.newline] ++ Bytes.unlines [[], utf8 "# end"] := by decide +kernel
    refine Or.inr ⟨?_, by decide +kernel⟩
    rw [List.append_assoc, htail, ← List.append_assoc]
    rfl
  have hdelivers : choppedSource.Delivers (longName ++ utf8 "\n\n# end") := by
    have hend : utf8 "\n\n# end" = utf8 "\n\n# e" ++ utf8 "nd" := by decide +kernel
    refine ⟨?_, ⟨by decide +kernel, by decide +kernel⟩, ?_⟩
    · simp only [choppedSource, List.flatMap_cons, List.flatMap_nil, List.append_nil,
        List.nil_append]
      rw [List.append_assoc, ← List.append_assoc, List.take_append_drop, ← hend]
    · intro run hrun hlen
      have hle : run.length ≤ 4 := hrun.length_le
      omega
  obtain ⟨lines, hanswers, hnumbers, -, hshows⟩ := answers_of_renders hfree hrenders hdelivers
  refine ⟨hfree, hrenders, hdelivers, lines, ?_⟩
  rcases hshows with _ | ⟨hname, _ | ⟨hblank, _ | ⟨hcomment, _ | _⟩⟩⟩
  rw [Line.Shows, if_neg (by decide +kernel), if_neg (by decide +kernel)] at hname
  rw [Line.Shows, if_pos rfl] at hblank
  rw [Line.Shows, if_neg (by decide +kernel), if_pos (by decide +kernel)] at hcomment
  refine ⟨hanswers 5, ?_⟩
  simp only [List.map_cons, List.map_nil, List.length_cons, List.length_nil, List.range',
    List.cons.injEq, and_true] at hnumbers
  simp [hnumbers, hname, hblank, hcomment]

end Policy

end SyscallFilter
