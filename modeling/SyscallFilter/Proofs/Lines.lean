import SyscallFilter.Proofs.Reading

/-! The lines of a text. A newline ends a line and belongs to it; only the last line of a text can
    be without one. A reader that gets the whole text as one chunk, however long it is, delivers
    these lines in order and then reports the end of the input. -/

namespace SyscallFilter

namespace Bytes

/-- Puts one more byte in front of the lines of a text. -/
def addToLines (b : UInt8) (ls : List Bytes) : List Bytes :=
  if b = newline then [b] :: ls
  else match ls with
    | [] => [[b]]
    | line :: more => (b :: line) :: more

/-- The lines of a text, each with its newline if it has one. -/
def lines (text : Bytes) : List Bytes := text.foldr addToLines []

theorem lines_cons (b : UInt8) (text : Bytes) : lines (b :: text) = addToLines b text.lines := rfl

theorem lines_of_none : ∀ {text : Bytes}, text.splitLine? = none →
    text.lines = if text = [] then [] else [text]
  | [], _ => rfl
  | b :: text, h => by
    unfold splitLine? at h
    split at h
    · exact absurd h (by simp)
    · next hb =>
      rw [lines_cons, lines_of_none (Option.map_eq_none_iff.mp h)]
      by_cases ht : text = []
      · simp [addToLines, hb, ht]
      · simp [addToLines, hb, ht]

theorem lines_of_some : ∀ {text line rest : Bytes}, text.splitLine? = some (line, rest) →
    text.lines = line :: rest.lines
  | [], _, _, h => by simp [splitLine?] at h
  | b :: text, line, rest, h => by
    unfold splitLine? at h
    rw [lines_cons]
    split at h
    · next hb =>
      obtain ⟨rfl, rfl⟩ := Prod.mk.inj (Option.some.inj h)
      simp [addToLines, hb]
    · next hb =>
      obtain ⟨⟨l, r⟩, hs, he⟩ := Option.map_eq_some_iff.mp h
      obtain ⟨rfl, rfl⟩ := Prod.mk.inj he
      rw [lines_of_some hs]
      simp [addToLines, hb]

end Bytes

namespace Policy

/-- Lines with the given bytes, numbered from `k + 1` on. -/
def numbered (k : Nat) : List Bytes → List Line
  | [] => []
  | raw :: rest => lineOf (k + 1) raw :: numbered (k + 1) rest

/-- A stream of bytes alone has the lines of its text. -/
theorem read_text (k : Nat) (text : Bytes) :
    read k [] (text.map .byte) = (numbered k text.lines, .endOfInput) := by
  induction hn : text.length using Nat.strongRecOn generalizing k text with
  | _ n ih =>
    have hnil : text.map Event.byte = text.map .byte ++ [] := (List.append_nil _).symm
    cases hs : text.splitLine? with
    | none =>
      rw [hnil, read_bytes_of_none k [] [] hs, Bytes.lines_of_none hs, List.nil_append, read]
      by_cases ht : text = []
      · simp [ht, numbered]
      · simp [ht, numbered]
    | some p =>
      obtain ⟨line, rest⟩ := p
      have hlen := Reader.splitLine?_length hs
      have hpos := List.length_pos_iff.mpr (splitLine?_ne_nil hs)
      rw [hnil, read_bytes_of_some k [] [] hs, Bytes.lines_of_some hs, List.append_nil,
        ih rest.length (by omega) (k + 1) rest rfl]
      rfl

theorem events_ofBytes (text : Bytes) : (Source.ofBytes text).events 0 = text.map .byte := by
  by_cases ht : text = []
  · simp [Source.ofBytes, Source.events, idleLimit, ht]
  · simp [Source.ofBytes, Source.events, eventsOf, ht]

/-- Reading a whole text delivers its lines and reports the end of the input. -/
theorem readLines_ofBytes (text : Bytes) :
    readLines (.ofBytes text) = (numbered 0 text.lines, .endOfInput) := by
  rw [Reader.readLines_eq_read, events_ofBytes, read_text]

theorem contents_numbered (k : Nat) (raws : List Bytes) :
    (numbered k raws).map (·.content) = raws.map classify := by
  induction raws generalizing k with
  | nil => rfl
  | cons raw rest ih => exact congrArg (classify raw :: ·) (ih (k + 1))

theorem classify_eq_syscall {raw name : Bytes} : classify raw = .syscall name ↔
    raw.dropNewline = name ∧ name ≠ [] ∧ name.head? ≠ some (Bytes.ascii '#') := by
  unfold classify
  cases raw.dropNewline with
  | nil =>
    simp only [Content.ofText, reduceCtorEq, false_iff]
    rintro ⟨rfl, hne, -⟩
    exact hne rfl
  | cons b rest =>
    by_cases hb : b = Bytes.ascii '#'
    · simp only [Content.ofText, if_pos hb, reduceCtorEq, false_iff]
      rintro ⟨rfl, -, hcomment⟩
      exact hcomment (congrArg some hb)
    · simp only [Content.ofText, if_neg hb, Content.syscall.injEq]
      refine ⟨?_, And.left⟩
      rintro rfl
      exact ⟨rfl, List.cons_ne_nil b rest, fun h => hb (Option.some.inj h)⟩

end Policy

end SyscallFilter
