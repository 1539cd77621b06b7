import SyscallFilter.Proofs.Listings

/-! What arrives on a sink that has room for a number of bytes only. Texts shorter than a piece
    reach the sink in whole pieces, and one piece, or what there is of it, is always held back until
    the buffer is flushed:

        texts      ████████████████████████████████▒▒▒▒▒▒▒
                   handed over in whole pieces     pending

    So the sink has a beginning of the texts, as far as they were handed over and as far as it has
    room. The buffer knows of a loss exactly when more was handed over than there is room for,
    whether the sink fails or takes fewer bytes without a word, and hands over nothing after it. A
    listing is flushed at its end, unless the filter cannot be taken apart. -/

namespace SyscallFilter.Output

open SyscallFilter

/-- What is reported when a sink has no room left. -/
def lossOf (report : Option Loss) : Loss := report.getD .shortWrite

/-- A write to a sink with room for a number of bytes: what the sink is behind it, and what a writer
    that counts the bytes makes of the answer. -/
theorem Sink.write_limited {s : Sink} {room : Nat} {report : Option Loss}
    (h : s.capacity = .limited room report) (data : Bytes) :
    (s.write data).sink = ⟨.limited (room - data.length) report, data.take room :: s.pieces⟩ ∧
    ((s.write data).loss <|>
      if (s.write data).count < data.length then some .shortWrite else none) =
        if data.length ≤ room then none else some (lossOf report) := by
  rw [write, h]
  rcases Nat.lt_or_ge room data.length with hlt | hge
  · have hcount : min room data.length = room := Nat.min_eq_left (Nat.le_of_lt hlt)
    have hnone : room - data.length = room - room := by omega
    constructor
    · simp only [hcount, hnone]
    · simp only [hcount, hlt, if_true, Nat.not_le.mpr hlt, if_false]
      cases report with
      | none => rfl
      | some loss => rfl
  · have hcount : min room data.length = data.length := Nat.min_eq_right hge
    constructor
    · simp only [hcount, List.take_length, List.take_of_length_le hge]
    · simp only [hcount, Nat.lt_irrefl, if_false, hge, if_true]
      rfl

namespace Buffer

/-- How many of `n` bytes are handed to the sink before the buffer is flushed: whole pieces, of
    which the last one is held back. -/
def handedOver (n : Nat) : Nat := size * ((n - 1) / size)

/-- A buffer over a sink with room for `limit` bytes that has taken in `text` and handed over its
    first `k` bytes. -/
structure Handed (limit : Nat) (report : Option Loss) (text : Bytes) (k : Nat) (b : Buffer) :
    Prop where
  le : k ≤ text.length
  bytes : b.sink.bytes = text.take (min limit k)
  loss : b.loss = if k ≤ limit then none else some (lossOf report)
  pending : k ≤ limit → b.pending = text.drop k
  capacity : k ≤ limit → b.sink.capacity = .limited (limit - k) report

variable {limit k : Nat} {report : Option Loss} {text : Bytes} {b : Buffer}

theorem handed_empty (limit : Nat) (report : Option Loss) :
    Handed limit report [] 0 { sink := { capacity := .limited limit report } } where
  le := Nat.le_refl 0
  bytes := List.take_nil.symm
  loss := rfl
  pending _ := rfl
  capacity _ := rfl

/-! ### One operation -/

/-- Flushing hands over what the sink has room for, and tells whether that is all. -/
theorem flush_of_limited {room : Nat} (hloss : b.loss = none) (hp : b.pending ≠ [])
    (hc : b.sink.capacity = .limited room report) :
    b.flush.sink.bytes = b.sink.bytes ++ b.pending.take room ∧
    b.flush.sink.capacity = .limited (room - b.pending.length) report ∧
    b.flush.loss = (if b.pending.length ≤ room then none else some (lossOf report)) ∧
    (b.pending.length ≤ room → b.flush.pending = []) := by
  obtain ⟨hsink, hreport⟩ := Sink.write_limited hc b.pending
  have hflush : b.flush = ⟨_, _, _⟩ := if_neg (by simp [hloss, hp])
  rw [hflush]
  refine ⟨?_, ?_, hreport, ?_⟩
  · simp [hsink, Sink.bytes]
  · rw [hsink]
  · intro hle
    rw [hreport, if_pos hle]
    rfl

/-- Behind a loss a buffer has all that it will ever have handed over. -/
theorem Handed.lost (h : b.Handed limit report text k) (hk : limit < k) {more : Bytes} {k' : Nat}
    (hk' : k ≤ k') (hle : k' ≤ (text ++ more).length) :
    b.Handed limit report (text ++ more) k' := by
  have hlen := h.le
  refine ⟨hle, ?_, ?_, fun hroom => ?_, fun hroom => ?_⟩
  · rw [h.bytes, Nat.min_eq_left (by omega), Nat.min_eq_left (by omega),
      List.take_append_of_le_length (by omega)]
  · rw [h.loss, if_neg (by omega), if_neg (by omega)]
  · omega
  · omega

/-- Bytes that are collected are not handed over yet. -/
theorem Handed.collect (h : b.Handed limit report text k) (hk : k ≤ limit) (more : Bytes) :
    ({ b with pending := b.pending ++ more } : Buffer).Handed limit report (text ++ more) k := by
  have hlen := h.le
  refine ⟨?_, ?_, h.loss, fun _ => ?_, h.capacity⟩
  · rw [List.length_append]
    omega
  · rw [List.take_append_of_le_length (by omega)]
    exact h.bytes
  · rw [List.drop_append_of_le_length hlen, ← h.pending hk]

/-- Flushing hands over everything. -/
theorem Handed.flush (h : b.Handed limit report text k) :
    b.flush.Handed limit report text text.length := by
  by_cases hk : k ≤ limit
  · have hlen := h.le
    have hloss : b.loss = none := h.loss.trans (if_pos hk)
    have hpending := h.pending hk
    by_cases hp : b.pending = []
    · have hflush : b.flush = b := if_pos (Or.inr hp)
      have hall : k = text.length := by
        rw [hp] at hpending
        have := List.drop_eq_nil_iff.mp hpending.symm
        omega
      rw [hflush, ← hall]
      exact h
    · obtain ⟨hbytes, hcapacity, hreport, hempty⟩ := flush_of_limited hloss hp (h.capacity hk)
      have hcount : b.pending.length = text.length - k := by rw [hpending, List.length_drop]
      refine ⟨Nat.le_refl _, ?_, ?_, ?_, ?_⟩
      · rw [hbytes, h.bytes, hpending, Nat.min_eq_right hk, ← List.take_add, Nat.add_sub_cancel' hk]
        exact List.take_eq_take_iff.mpr (by omega)
      · have hfits : text.length - k ≤ limit - k ↔ text.length ≤ limit := by omega
        simp only [hreport, hcount, hfits]
      · intro hroom
        rw [hempty (by omega), List.drop_length]
      · intro hroom
        rw [hcapacity, hcount]
        congr 1
        omega
  · have hflush : b.flush = b := if_pos (Or.inl (by rw [h.loss, if_neg hk]; rfl))
    rw [hflush]
    have hlost : b.Handed limit report (text ++ []) text.length :=
      h.lost (Nat.lt_of_not_le hk) h.le (by simp)
    rwa [List.append_nil] at hlost

/-- A text that is not longer than a piece is collected behind what was handed over. -/
theorem Handed.start (h : b.Handed limit report text text.length) (rest : Bytes)
    (hrest : rest.length ≤ size) :
    (b.start rest).Handed limit report (text ++ rest) text.length := by
  by_cases hk : text.length ≤ limit
  · have hempty : b.pending = [] := (h.pending hk).trans List.drop_length
    have hstart : b.start rest = { b with pending := b.pending ++ rest } := by
      simp [Buffer.start, h.loss, hk, hrest, hempty]
    rw [hstart]
    exact h.collect hk rest
  · have hstart : b.start rest = b := if_pos (by rw [h.loss, if_neg hk]; rfl)
    rw [hstart]
    exact h.lost (Nat.lt_of_not_le hk) (Nat.le_refl _) (by simp)

/-! ### Texts -/

/-- Taking in a text that is shorter than a piece hands over at most one piece. -/
theorem Handed.write (h : b.Handed limit report text (handedOver text.length)) {line : Bytes}
    (hline : line.length < size) :
    (b.write line).Handed limit report (text ++ line) (handedOver (text ++ line).length) := by
  have hlen : (text ++ line).length = text.length + line.length := List.length_append
  by_cases hk : handedOver text.length ≤ limit
  · have hloss : ¬ b.loss.isSome = true := by rw [h.loss, if_pos hk]; simp
    have hpending : b.pending.length = text.length - handedOver text.length := by
      rw [h.pending hk, List.length_drop]
    rw [Buffer.write, if_neg hloss]
    by_cases hroom : line.length ≤ b.room
    · have hsame : handedOver (text ++ line).length = handedOver text.length := by
        simp only [handedOver, room, size] at *
        omega
      rw [if_pos hroom, hsame]
      exact h.collect hk line
    · have hsome : b.pending ≠ [] := by
        intro hnone
        simp only [room, hnone, List.length_nil] at hroom
        omega
      -- The piece is filled up and handed over, and the rest of the text starts the next one.
      have hfilled := (h.collect hk (line.take b.room)).flush.start (line.drop b.room)
        (by rw [List.length_drop]; omega)
      have hpieces : (text ++ line.take b.room).length = handedOver (text ++ line).length := by
        simp only [handedOver, room, size, List.length_append, List.length_take] at *
        omega
      rw [List.append_assoc, List.take_append_drop, hpieces] at hfilled
      rw [if_neg hroom, if_neg hsome]
      exact hfilled
  · have hwrite : b.write line = b := if_pos (by rw [h.loss, if_neg hk]; rfl)
    rw [hwrite]
    refine h.lost (Nat.lt_of_not_le hk) ?_ ?_
    · simp only [handedOver, size, hlen]
      omega
    · simp only [handedOver, size, hlen]
      omega

theorem Handed.writeAll (h : b.Handed limit report text (handedOver text.length))
    {texts : List Bytes} (hshort : ∀ line ∈ texts, line.length < size) :
    (b.writeAll texts).Handed limit report (text ++ texts.flatten)
      (handedOver (text ++ texts.flatten).length) := by
  induction texts generalizing b text with
  | nil =>
    rw [List.flatten_nil, List.append_nil]
    exact h
  | cons line texts ih =>
    have hfirst := h.write (hshort line List.mem_cons_self)
    have hrest := ih hfirst fun line' hl => hshort line' (List.mem_cons_of_mem line hl)
    rw [List.append_assoc] at hrest
    exact hrest

end Buffer

end SyscallFilter.Output

namespace SyscallFilter.Compilation

open Output

/-- A sink with room for a number of bytes gets a beginning of a listing whose lines are shorter
    than a piece. If the filter can be taken apart, that is all there is room for, and a loss is
    reported exactly when that is not everything. Otherwise the error says so, whatever became of
    the heading, and the sink gets only whole pieces of it. -/
theorem writeListing_limited {c : Compilation} (hshort : ∀ line ∈ c.listing, line.length < 4096)
    (limit : Nat) (report : Option Loss) :
    (c.filter.disassemble?.isSome = true →
      (c.writeListing {}).2.bytes = c.listing.flatten ∧
      (c.writeListing { capacity := .limited limit report }).2.bytes =
        c.listing.flatten.take (min limit c.listing.flatten.length) ∧
      ((c.writeListing { capacity := .limited limit report }).1 = none ↔
        c.listing.flatten.length ≤ limit) ∧
      (limit < c.listing.flatten.length →
        (c.writeListing { capacity := .limited limit report }).1 = some (.lost (lossOf report)))) ∧
    (c.filter.disassemble? = none →
      (c.writeListing { capacity := .limited limit report }).1 = some .unknownInstructions ∧
      (c.writeListing { capacity := .limited limit report }).2.bytes =
        c.heading.flatten.take (min limit (4096 * ((c.heading.flatten.length - 1) / 4096)))) := by
  have hempty := Buffer.handed_empty limit report
  constructor
  · intro hsome
    obtain ⟨program, hprogram⟩ := Option.isSome_iff_exists.mp hsome
    have hhanded := (hempty.writeAll hshort).flush
    rw [List.nil_append] at hhanded
    have hreport : (c.writeListing { capacity := .limited limit report }).1 =
        if c.listing.flatten.length ≤ limit then none else some (.lost (lossOf report)) := by
      rw [writeListing_of_some hprogram, hhanded.loss]
      split
      · rfl
      · rfl
    refine ⟨?_, ?_, ?_, ?_⟩
    · rw [(writeListing_unlimited hprogram).2, listing, hprogram]
      rfl
    · rw [writeListing_of_some hprogram]
      exact hhanded.bytes
    · rw [hreport]
      simp
    · intro hlost
      rw [hreport, if_neg (Nat.not_le.mpr hlost)]
  · intro hnone
    have hheading : c.listing = c.heading := by simp [listing, hnone]
    rw [hheading] at hshort
    have hhanded := hempty.writeAll hshort
    rw [List.nil_append] at hhanded
    rw [writeListing_of_none hnone]
    exact ⟨rfl, hhanded.bytes⟩

/-- A compilation with two hundred rules. -/
def crowded : Compilation where
  allowlist :=
    { Allowlist.empty (.ofPlatform Arch.host .x8664) with
      rules := List.replicate 200 ⟨0, utf8 "a_call_with_a_rather_long_name", .allow⟩ }
  filter := [⟨6, 0, 0, 0⟩]
  unresolved := []
  stats := {}

/-- The same with a filter that cannot be taken apart. -/
def garbled : Compilation := { crowded with filter := [⟨0xffff, 0, 0, 0⟩] }

theorem writeListing_limited_crowded :
    ((∀ line ∈ crowded.listing, line.length < 4096) ∧
      crowded.filter.disassemble?.isSome = true ∧ crowded.listing.flatten.length = 8711 ∧
      (crowded.writeListing { capacity := .limited 8192 none }).1 = some (.lost .shortWrite) ∧
      (crowded.writeListing { capacity := .limited 8192 none }).2.bytes.length = 8192) ∧
    ((∀ line ∈ garbled.listing, line.length < 4096) ∧
      garbled.filter.disassemble? = none ∧ garbled.heading.flatten.length = 8676 ∧
      (garbled.writeListing { capacity := .limited 8500 none }).1 = some .unknownInstructions ∧
      (garbled.writeListing { capacity := .limited 8500 none }).2.bytes.length = 8192) := by
  constructor
  · have hshort : ∀ line ∈ crowded.listing, line.length < 4096 := by decide +kernel
    have hsome : crowded.filter.disassemble?.isSome = true := by decide +kernel
    have hlength : crowded.listing.flatten.length = 8711 := by decide +kernel
    obtain ⟨-, hbytes, -, hlost⟩ := (writeListing_limited hshort 8192 none).1 hsome
    refine ⟨hshort, hsome, hlength, hlost (by rw [hlength]; decide), ?_⟩
    rw [hbytes, List.length_take, hlength]
    rfl
  · have hshort : ∀ line ∈ garbled.listing, line.length < 4096 := by decide +kernel
    have hnone : garbled.filter.disassemble? = none := by decide +kernel
    have hlength : garbled.heading.flatten.length = 8676 := by decide +kernel
    obtain ⟨herror, hbytes⟩ := (writeListing_limited hshort 8500 none).2 hnone
    refine ⟨hshort, hnone, hlength, herror, ?_⟩
    rw [hbytes, List.length_take, hlength]
    rfl

end SyscallFilter.Compilation
