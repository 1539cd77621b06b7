import SyscallFilter.Proofs.Listings

/-! Two sinks side by side. One takes everything, and the other refuses a single write.

        s    piece … piece   piece    piece …
        s'   piece … piece   refused  …

    As long as both get the same writes, they stay beside each other: up to the refused write they
    have taken the same, and behind it the first pieces are still the same. Buffers over the two do
    the same until the refused write; the second then keeps the loss and writes no more. So the
    listing of a compilation is incomplete exactly if the refused write is one of its own. -/

namespace SyscallFilter.Output

open SyscallFilter

/-! ### Pieces taken before -/

/-- The sink with other pieces taken before its own. -/
def Sink.above (s : Sink) (earlier : List Bytes) : Sink := { s with pieces := s.pieces ++ earlier }

theorem Sink.write_above (s : Sink) (earlier : List Bytes) (data : Bytes) :
    (s.above earlier).write data =
      ⟨(s.write data).count, (s.write data).loss, (s.write data).sink.above earlier⟩ := by
  obtain ⟨capacity, pieces⟩ := s
  rcases capacity with - | ⟨- | before, loss⟩ | ⟨room, report⟩
  · rfl
  · rfl
  · rfl
  · rfl

namespace Buffer

/-- The buffer over a sink with other pieces taken before. -/
def above (b : Buffer) (earlier : List Bytes) : Buffer := { b with sink := b.sink.above earlier }

theorem flush_above (b : Buffer) (earlier : List Bytes) :
    (b.above earlier).flush = b.flush.above earlier := by
  rw [flush, flush]
  by_cases h : b.loss.isSome ∨ b.pending = []
  · rw [if_pos h]
    exact if_pos h
  · rw [if_neg h]
    refine (if_neg h).trans ?_
    simp only [above, Sink.write_above]

theorem start_above (b : Buffer) (earlier : List Bytes) (text : Bytes) :
    (b.above earlier).start text = (b.start text).above earlier := by
  rw [start, start]
  by_cases h : b.loss.isSome
  · rw [if_pos h]
    exact if_pos h
  · rw [if_neg h]
    refine (if_neg h).trans ?_
    by_cases hlong : text.length ≤ size
    · rw [if_pos hlong, if_pos hlong]
      rfl
    · rw [if_neg hlong, if_neg hlong]
      simp only [above, Sink.write_above]

theorem write_above (b : Buffer) (earlier : List Bytes) (text : Bytes) :
    (b.above earlier).write text = (b.write text).above earlier := by
  rw [write, write]
  by_cases h : b.loss.isSome
  · rw [if_pos h]
    exact if_pos h
  · rw [if_neg h]
    refine (if_neg h).trans ?_
    by_cases hroom : text.length ≤ b.room
    · rw [if_pos hroom]
      exact if_pos hroom
    · rw [if_neg hroom]
      refine (if_neg hroom).trans ?_
      by_cases hp : b.pending = []
      · rw [if_pos hp, ← start_above]
        exact if_pos hp
      · rw [if_neg hp, ← start_above, ← flush_above]
        exact if_neg hp

theorem writeAll_above (b : Buffer) (earlier : List Bytes) (texts : List Bytes) :
    (b.above earlier).writeAll texts = (b.writeAll texts).above earlier := by
  induction texts generalizing b with
  | nil => rfl
  | cons text texts ih =>
    change ((b.above earlier).write text).writeAll texts = _
    rw [write_above, ih]
    rfl

/-- A buffer only ever adds pieces to those that its sink has taken. -/
theorem pieces_flush (b : Buffer) : ∃ more, b.flush.sink.pieces = more ++ b.sink.pieces :=
  ⟨_, congrArg (·.sink.pieces)
    (flush_above { b with sink := { b.sink with pieces := [] } } b.sink.pieces)⟩

theorem pieces_start (b : Buffer) (text : Bytes) :
    ∃ more, (b.start text).sink.pieces = more ++ b.sink.pieces :=
  ⟨_, congrArg (·.sink.pieces)
    (start_above { b with sink := { b.sink with pieces := [] } } b.sink.pieces text)⟩

theorem pieces_write (b : Buffer) (text : Bytes) :
    ∃ more, (b.write text).sink.pieces = more ++ b.sink.pieces :=
  ⟨_, congrArg (·.sink.pieces)
    (write_above { b with sink := { b.sink with pieces := [] } } b.sink.pieces text)⟩

end Buffer

/-! ### A sink that refuses one write -/

/-- A sink `s` that takes everything, and a sink `s'` that refuses write number `n`, in runs that do
    the same up to that write. Behind it, the first `n` pieces are still the same. -/
inductive Sink.Beside (n : Nat) (s s' : Sink) : Prop where
  | before (unlimited : s.capacity = .unlimited) (few : s.pieces.length ≤ n) (loss : Loss)
    (same : s' = ⟨.refusing (n - s.pieces.length) loss, s.pieces⟩) : Beside n s s'
  | behind (unlimited : s.capacity = .unlimited) (unlimited' : s'.capacity = .unlimited)
    (more : n < s.pieces.length) (first later later' : List Bytes) (length : first.length = n)
    (pieces : s.pieces = later ++ first) (pieces' : s'.pieces = later' ++ first) : Beside n s s'

namespace Sink

variable {n : Nat} {s s' : Sink}

theorem beside_empty (n : Nat) (loss : Loss) : Beside n {} { capacity := .refusing n loss } :=
  .before rfl (Nat.zero_le n) loss rfl

theorem Beside.unlimited (h : s.Beside n s') : s.capacity = .unlimited := by
  cases h with
  | before unlimited _ _ _ => exact unlimited
  | behind unlimited _ _ _ _ _ _ _ _ => exact unlimited

/-- The first `n` pieces are the same. -/
theorem Beside.take_pieces (h : s.Beside n s') :
    s'.pieces.reverse.take n = s.pieces.reverse.take n := by
  cases h with
  | before _ _ _ same => rw [same]
  | behind _ _ _ first later later' length pieces pieces' =>
    have hfirst : first.reverse.length = n := by rw [List.length_reverse, length]
    rw [pieces, pieces', List.reverse_append, List.reverse_append, List.take_left' hfirst,
      List.take_left' hfirst]

/-- The same write on both sides is refused, without a byte taken, exactly if it is number `n`. -/
theorem Beside.write (h : s.Beside n s') (data : Bytes) :
    (s.write data).sink.Beside n (s'.write data).sink ∧
    ((s.pieces.length = n ∧ (s'.write data).count = 0 ∧
        (s'.write data).loss.isSome = true) ∨
      (s.pieces.length ≠ n ∧ (s'.write data).count = data.length ∧
        (s'.write data).loss = none)) := by
  rw [Sink.write_unlimited h.unlimited]
  cases h with
  | before unlimited few loss same =>
    by_cases hn : s.pieces.length = n
    · have hsink : s' = ⟨.refusing 0 loss, s.pieces⟩ := by rw [same, hn, Nat.sub_self]
      rw [hsink]
      exact ⟨.behind unlimited rfl (by rw [List.length_cons]; omega) s.pieces [data] [] hn rfl rfl,
        Or.inl ⟨hn, rfl, rfl⟩⟩
    · obtain ⟨k, hk⟩ : ∃ k, n - s.pieces.length = k + 1 := ⟨n - s.pieces.length - 1, by omega⟩
      have hsink : s' = ⟨.refusing (k + 1) loss, s.pieces⟩ := by rw [same, hk]
      have hleft : n - (data :: s.pieces).length = k := by rw [List.length_cons]; omega
      rw [hsink]
      refine ⟨.before unlimited (by rw [List.length_cons]; omega) loss ?_, Or.inr ⟨hn, rfl, rfl⟩⟩
      rw [hleft]
      rfl
  | behind unlimited unlimited' more first later later' length pieces pieces' =>
    rw [Sink.write_unlimited unlimited']
    refine ⟨.behind unlimited unlimited' (Nat.lt_succ_of_lt more) first (data :: later)
      (data :: later') length ?_ ?_, Or.inr ⟨by omega, rfl, rfl⟩⟩
    · rw [pieces, List.cons_append]
    · rw [pieces', List.cons_append]

/-- Behind the refused write, each side may go on without the other. -/
theorem Beside.extend (h : s.Beside n s') (hn : n < s.pieces.length) {t : Sink}
    (ht : t.capacity = .unlimited) {new : List Bytes} (hp : t.pieces = new ++ s.pieces) :
    t.Beside n s' := by
  cases h with
  | before _ few _ _ => omega
  | behind _ unlimited' _ first later later' length pieces pieces' =>
    refine .behind ht unlimited' ?_ first (new ++ later) later' length ?_ pieces'
    · rw [hp, List.length_append]
      omega
    · rw [hp, pieces, List.append_assoc]

theorem Beside.write_right (h : s.Beside n s') (hn : n < s.pieces.length) (data : Bytes) :
    s.Beside n (s'.write data).sink := by
  cases h with
  | before _ few _ _ => omega
  | behind unlimited unlimited' more first later later' length pieces pieces' =>
    rw [Sink.write_unlimited unlimited']
    refine .behind unlimited unlimited' more first later (data :: later') length pieces ?_
    rw [pieces', List.cons_append]

end Sink

/-! ### Buffers over such sinks -/

/-- A buffer over a sink that takes everything, beside one over a sink that refuses write number
    `n`, both in use since the first of the sinks had taken `base` pieces. -/
structure Buffer.Beside (base n : Nat) (b b' : Buffer) : Prop where
  sure : b.Sure
  started : base ≤ b.sink.pieces.length
  sink : b.sink.Beside n b'.sink
  /-- The loss is known as soon as the refused write is one of the buffer's. -/
  lost : b'.loss.isSome = true ↔ base ≤ n ∧ n < b.sink.pieces.length
  pending : b'.loss = none → b'.pending = b.pending

namespace Buffer

variable {base n : Nat} {b b' : Buffer}

theorem beside_of_sink {s s' : Sink} (h : s.Beside n s') :
    Beside s.pieces.length n { sink := s } { sink := s' } where
  sure := ⟨h.unlimited, rfl⟩
  started := Nat.le_refl _
  sink := h
  lost := by simp
  pending _ := rfl

/-- Behind a loss, the buffer that has it stays as it is. -/
theorem Beside.of_lost (h : b.Beside base n b') (hlost : b'.loss.isSome = true) {c : Buffer}
    (hc : c.Sure) (hp : ∃ more, c.sink.pieces = more ++ b.sink.pieces) : c.Beside base n b' := by
  obtain ⟨more, hp⟩ := hp
  obtain ⟨hstart, hn⟩ := h.lost.mp hlost
  have hlen : b.sink.pieces.length ≤ c.sink.pieces.length := by
    rw [hp, List.length_append]
    omega
  have hpending : b'.loss = none → b'.pending = c.pending := by
    intro hnone
    rw [hnone] at hlost
    exact absurd hlost (by simp)
  exact ⟨hc, by omega, h.sink.extend hn hc.unlimited hp, iff_of_true hlost ⟨hstart, by omega⟩,
    hpending⟩

/-- A write to both sinks, of which the buffers keep what was reported. -/
theorem Beside.handOver (h : b.Beside base n b') (hkept : b'.loss = none) (data : Bytes)
    {rest : Bytes} (hrest : (b'.sink.write data).loss = none → rest = []) :
    Beside base n ⟨{ b.sink with pieces := data :: b.sink.pieces }, [], none⟩
      ⟨(b'.sink.write data).sink, rest, (b'.sink.write data).loss⟩ := by
  have hstart := h.started
  have hnot : ¬ (base ≤ n ∧ n < b.sink.pieces.length) := by
    intro hboth
    have hlost := h.lost.mpr hboth
    rw [hkept] at hlost
    exact absurd hlost (by simp)
  obtain ⟨hsink, hreport⟩ := h.sink.write data
  rw [Sink.write_unlimited h.sure.unlimited] at hsink
  refine ⟨⟨h.sure.unlimited, rfl⟩, Nat.le_succ_of_le hstart, hsink, ?_, hrest⟩
  rw [List.length_cons]
  rcases hreport with ⟨hn, -, hloss⟩ | ⟨hn, -, hloss⟩
  · exact iff_of_true hloss ⟨by omega, by omega⟩
  · rw [hloss]
    exact iff_of_false (by simp) (by omega)

theorem Beside.flush (h : b.Beside base n b') : b.flush.Beside base n b'.flush := by
  by_cases hlost : b'.loss.isSome = true
  · have hflush : b'.flush = b' := if_pos (Or.inl hlost)
    rw [hflush]
    exact h.of_lost hlost h.sure.flush.1 b.pieces_flush
  · have hkept : b'.loss = none := by simpa using hlost
    have hpending := h.pending hkept
    by_cases hp : b.pending = []
    · have hflush : b.flush = b := if_pos (Or.inr hp)
      have hflush' : b'.flush = b' := if_pos (Or.inr (hpending.trans hp))
      rw [hflush, hflush']
      exact h
    · -- What is reported is the loss, since a write that is taken is taken whole.
      have hreport : ((b'.sink.write b.pending).loss <|>
          if (b'.sink.write b.pending).count < b.pending.length then some Loss.shortWrite
          else none) = (b'.sink.write b.pending).loss := by
        rcases (h.sink.write b.pending).2 with ⟨-, -, hloss⟩ | ⟨-, hcount, hloss⟩
        · obtain ⟨loss, hloss⟩ := Option.isSome_iff_exists.mp hloss
          rw [hloss]
          rfl
        · rw [hloss, hcount, if_neg (Nat.lt_irrefl _)]
          rfl
      have hflush : b'.flush = ⟨(b'.sink.write b.pending).sink,
          if (b'.sink.write b.pending).loss.isSome then
            b.pending.drop (b'.sink.write b.pending).count else [],
          (b'.sink.write b.pending).loss⟩ := by
        rw [Buffer.flush, if_neg (by simp [hkept, hpending, hp]), hpending]
        simp only [hreport]
      rw [h.sure.flush_of_pending hp, hflush]
      exact h.handOver hkept b.pending fun hnone => by rw [hnone]; rfl

/-- What is collected may be exchanged on both sides alike. -/
theorem Beside.collect (h : b.Beside base n b') (pending : Bytes) :
    ({ b with pending } : Buffer).Beside base n { b' with pending } :=
  ⟨⟨h.sure.unlimited, h.sure.whole⟩, h.started, h.sink, h.lost, fun _ => rfl⟩

theorem Beside.start (h : b.Beside base n b') (hp : b.pending = []) (text : Bytes) :
    (b.start text).Beside base n (b'.start text) := by
  by_cases hlost : b'.loss.isSome = true
  · have hstart : b'.start text = b' := if_pos hlost
    rw [hstart]
    exact h.of_lost hlost (h.sure.start hp text).1 (b.pieces_start text)
  · have hkept : b'.loss = none := by simpa using hlost
    by_cases hlong : text.length ≤ size
    · have hstart : b.start text = { b with pending := text } := by
        simp [Buffer.start, h.sure.whole, hlong]
      have hstart' : b'.start text = { b' with pending := text } := by
        simp [Buffer.start, hkept, hlong]
      rw [hstart, hstart']
      exact h.collect text
    · -- A text that is taken leaves no rest, and one that is refused is lost.
      have hreport : ((b'.sink.write text).loss <|>
          if (text.drop (b'.sink.write text).count).length ≤ size then none
          else some Loss.shortWrite) = (b'.sink.write text).loss := by
        rcases (h.sink.write text).2 with ⟨-, -, hloss⟩ | ⟨-, hcount, hloss⟩
        · obtain ⟨loss, hloss⟩ := Option.isSome_iff_exists.mp hloss
          rw [hloss]
          rfl
        · rw [hloss, hcount, List.drop_length]
          rfl
      have hrest : (b'.sink.write text).loss = none →
          (if (text.drop (b'.sink.write text).count).length ≤ size then
            text.drop (b'.sink.write text).count else []) = [] := by
        intro hnone
        rcases (h.sink.write text).2 with ⟨-, -, hloss⟩ | ⟨-, hcount, -⟩
        · rw [hnone] at hloss
          exact absurd hloss (by simp)
        · rw [hcount, List.drop_length]
          exact ite_self _
      have hstart : b'.start text = ⟨(b'.sink.write text).sink,
          if (text.drop (b'.sink.write text).count).length ≤ size then
            text.drop (b'.sink.write text).count else [],
          (b'.sink.write text).loss⟩ := by
        rw [Buffer.start, if_neg hlost, if_neg hlong]
        simp only [hreport]
      rw [h.sure.start_of_long hlong, hstart]
      exact h.handOver hkept text hrest

theorem Beside.write (h : b.Beside base n b') (text : Bytes) :
    (b.write text).Beside base n (b'.write text) := by
  by_cases hlost : b'.loss.isSome = true
  · have hwrite : b'.write text = b' := if_pos hlost
    rw [hwrite]
    exact h.of_lost hlost (h.sure.write text).1 (b.pieces_write text)
  · have hkept : b'.loss = none := by simpa using hlost
    have hwhole : ¬ b.loss.isSome = true := by simp [h.sure.whole]
    have hpending := h.pending hkept
    have hroom : b'.room = b.room := by rw [room, room, hpending]
    rw [Buffer.write, Buffer.write, if_neg hwhole, if_neg hlost, hroom, hpending]
    by_cases hfits : text.length ≤ b.room
    · rw [if_pos hfits, if_pos hfits]
      exact h.collect (b.pending ++ text)
    · rw [if_neg hfits, if_neg hfits]
      by_cases hp : b.pending = []
      · rw [if_pos hp, if_pos hp]
        exact h.start hp text
      · rw [if_neg hp, if_neg hp]
        have hfull := h.collect (b.pending ++ text.take b.room)
        exact hfull.flush.start hfull.sure.flush.2.2 (text.drop b.room)

theorem Beside.writeAll (h : b.Beside base n b') (texts : List Bytes) :
    (b.writeAll texts).Beside base n (b'.writeAll texts) := by
  induction texts generalizing b b' with
  | nil => exact h
  | cons text texts ih => exact ih (h.write text)

end Buffer

end SyscallFilter.Output

namespace SyscallFilter.Compilation

open Output

theorem writeListing_above (c : Compilation) (s : Sink) (earlier : List Bytes) :
    c.writeListing (s.above earlier) =
      ((c.writeListing s).1, (c.writeListing s).2.above earlier) := by
  have hstart : ({ sink := s.above earlier } : Buffer) = Buffer.above { sink := s } earlier := rfl
  cases hd : c.filter.disassemble? with
  | none =>
    rw [writeListing_of_none hd, writeListing_of_none hd, hstart, Buffer.writeAll_above]
    rfl
  | some program =>
    rw [writeListing_of_some hd, writeListing_of_some hd, hstart, Buffer.writeAll_above,
      Buffer.flush_above]
    rfl

/-- The pieces in which a listing reaches a sink that takes everything, in order. -/
def listingPieces (c : Compilation) : List Bytes := (c.writeListing {}).2.pieces.reverse

theorem pieces_writeListing (c : Compilation) {s : Sink} (h : s.capacity = .unlimited) :
    (c.writeListing s).2.pieces = c.listingPieces.reverse ++ s.pieces := by
  have hs : s = ({} : Sink).above s.pieces := by
    rw [← show (⟨.unlimited, s.pieces⟩ : Sink) = s by rw [← h]]
    rfl
  rw [hs, writeListing_above, listingPieces, List.reverse_reverse]
  rfl

/-- A listing is incomplete on the sink that refuses a write if the write is one of the listing, and
    fares there as on the other sink if it is not. -/
theorem writeListing_beside (c : Compilation) {n : Nat} {s s' : Sink} (h : s.Beside n s') :
    (c.writeListing s).2.Beside n (c.writeListing s').2 ∧
    (s.pieces.length ≤ n ∧ n < s.pieces.length + c.listingPieces.length →
      (c.writeListing s').1.isSome = true) ∧
    (¬ (s.pieces.length ≤ n ∧ n < s.pieces.length + c.listingPieces.length) →
      (c.writeListing s').1 = (c.writeListing s).1) := by
  have hpieces := congrArg List.length (c.pieces_writeListing h.unlimited)
  rw [List.length_append, List.length_reverse, Nat.add_comm] at hpieces
  rw [← hpieces]
  cases hd : c.filter.disassemble? with
  | none =>
    rw [writeListing_of_none hd, writeListing_of_none hd]
    exact ⟨((Buffer.beside_of_sink h).writeAll c.heading).sink, fun _ => rfl, fun _ => rfl⟩
  | some program =>
    have hbeside := ((Buffer.beside_of_sink h).writeAll c.listing).flush
    rw [writeListing_of_some hd, writeListing_of_some hd]
    refine ⟨hbeside.sink, fun hrefused => ?_, fun hnot => ?_⟩
    · rw [Option.isSome_map]
      exact hbeside.lost.mpr hrefused
    · have hkept := fun hlost => hnot (hbeside.lost.mp hlost)
      rw [hbeside.sure.whole, Option.not_isSome_iff_eq_none.mp hkept]

end SyscallFilter.Compilation
