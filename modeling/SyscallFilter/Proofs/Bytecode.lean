import SyscallFilter.Filter
import SyscallFilter.Proofs.Execution

/-! Bytecode and filters are two forms of one thing. Numbers of a fixed number of bytes are stored
    and read back without loss, in either byte order; a stored instruction is eight bytes, whatever
    its fields are, so that the bytes of a filter fall into blocks of eight:

        bytes        0 1    2    3    4 5 6 7
        field        code   jt   jf   k

    One equation says what reading does with a block and all that follows it. From it, reading
    undoes writing for every filter, and writing undoes reading for all bytes that fall into whole
    blocks. So the number of bytes alone decides whether bytes are bytecode. -/

namespace SyscallFilter

/-! ### Stored numbers -/

namespace ByteOrder

theorem ofLowBytes_lt : ∀ bytes : Bytes, ofLowBytes bytes < 256 ^ bytes.length
  | [] => Nat.one_pos
  | b :: rest => by
    have hb : b.toNat < 256 := b.toNat_lt
    have hrest := ofLowBytes_lt rest
    rw [ofLowBytes, List.length_cons, Nat.pow_succ]
    omega

/-- Bytes are the lowest bytes of the number that they stand for. -/
theorem lowBytes_ofLowBytes : ∀ bytes : Bytes, lowBytes bytes.length (ofLowBytes bytes) = bytes
  | [] => rfl
  | b :: rest => by
    have hb : b.toNat < 256 := b.toNat_lt
    have hlow : UInt8.ofNat (b.toNat + 256 * ofLowBytes rest) = b := by
      rw [← UInt8.toNat_inj, UInt8.toNat_ofNat']
      omega
    have hhigh : (b.toNat + 256 * ofLowBytes rest) / 256 = ofLowBytes rest := by omega
    rw [List.length_cons, ofLowBytes, lowBytes, hlow, hhigh, lowBytes_ofLowBytes rest]

theorem read_lt (order : ByteOrder) (bytes : Bytes) : order.read bytes < 256 ^ bytes.length := by
  cases order with
  | little => exact ofLowBytes_lt bytes
  | big =>
    have h := ofLowBytes_lt bytes.reverse
    rwa [List.length_reverse] at h

theorem write_read (order : ByteOrder) (bytes : Bytes) :
    order.write bytes.length (order.read bytes) = bytes := by
  cases order with
  | little => exact lowBytes_ofLowBytes bytes
  | big =>
    have h := lowBytes_ofLowBytes bytes.reverse
    rw [List.length_reverse] at h
    rw [write, read, h, List.reverse_reverse]

end ByteOrder

namespace Filter

open Bpf

variable {order : ByteOrder}

/-! ### One instruction -/

theorem length_encodeWord (w : Word) : (encodeWord order w).length = instructionSize := by
  rw [encodeWord, List.length_append, List.length_append, ByteOrder.length_write,
    ByteOrder.length_write]
  rfl

/-- Reading takes one instruction from a block of eight bytes, and goes on behind it. -/
theorem decodeWords_block {code k : Bytes} (hcode : code.length = 2) (hk : k.length = 4)
    (jt jf : UInt8) (rest : Bytes) :
    decodeWords order (code ++ [jt, jf] ++ k ++ rest) =
      ⟨.ofNat (order.read code), jt, jf, .ofNat (order.read k)⟩ :: decodeWords order rest := by
  match code, hcode, k, hk with
  | [_, _], _, [_, _, _, _], _ => rfl

/-- Eight bytes and more begin with a block. -/
theorem exists_block : ∀ {bytes : Bytes}, instructionSize ≤ bytes.length →
    ∃ code jt jf k rest, code.length = 2 ∧ k.length = 4 ∧ bytes = code ++ [jt, jf] ++ k ++ rest
  | c₀ :: c₁ :: jt :: jf :: k₀ :: k₁ :: k₂ :: k₃ :: rest, _ =>
    ⟨[c₀, c₁], jt, jf, [k₀, k₁, k₂, k₃], rest, rfl, rfl, rfl⟩
  | [], h | [_], h | [_, _], h | [_, _, _], h | [_, _, _, _], h | [_, _, _, _, _], h
  | [_, _, _, _, _, _], h | [_, _, _, _, _, _, _], h => by simp [instructionSize] at h

theorem decodeWords_encodeWord (w : Word) (rest : Bytes) :
    decodeWords order (encodeWord order w ++ rest) = w :: decodeWords order rest := by
  have hcode : w.code.toNat < 256 ^ 2 := w.code.toNat_lt
  have hk : w.k.toNat < 256 ^ 4 := w.k.toNat_lt
  rw [encodeWord, decodeWords_block (ByteOrder.length_write ..) (ByteOrder.length_write ..),
    ByteOrder.read_write, ByteOrder.read_write, Nat.mod_eq_of_lt hcode, Nat.mod_eq_of_lt hk,
    UInt16.ofNat_toNat, UInt32.ofNat_toNat]

/-- The instruction read from a block is stored as that block. -/
theorem encodeWord_block {code k : Bytes} (hcode : code.length = 2) (hk : k.length = 4)
    (jt jf : UInt8) :
    encodeWord order ⟨.ofNat (order.read code), jt, jf, .ofNat (order.read k)⟩ =
      code ++ [jt, jf] ++ k := by
  have hc := order.read_lt code
  have hw := order.read_lt k
  rw [hcode] at hc
  rw [hk] at hw
  rw [encodeWord, UInt16.toNat_ofNat_of_lt' hc, UInt32.toNat_ofNat_of_lt' hw]
  congr 1
  · rw [← hcode, order.write_read]
  · rw [← hk, order.write_read]

/-! ### Programs -/

theorem encode_cons (w : Word) (f : Filter) :
    encode (w :: f) order = encodeWord order w ++ encode f order := List.flatMap_cons

theorem length_encode (f : Filter) (order : ByteOrder) :
    (f.encode order).length = instructionSize * f.length := by
  induction f with
  | nil => rfl
  | cons w f ih =>
    rw [encode_cons, List.length_append, length_encodeWord, ih, List.length_cons, Nat.mul_succ]
    omega

theorem decodeWords_encode (f : Filter) : decodeWords order (f.encode order) = f := by
  induction f with
  | nil => rfl
  | cons w f ih => rw [encode_cons, decodeWords_encodeWord, ih]

/-- Bytes that fall into whole blocks are stored as they were. -/
theorem encode_decodeWords {n : Nat} {bytes : Bytes} (h : bytes.length = instructionSize * n) :
    encode (decodeWords order bytes) order = bytes := by
  induction n generalizing bytes with
  | zero =>
    rw [List.length_eq_zero_iff.mp h]
    rfl
  | succ n ih =>
    rw [Nat.mul_succ] at h
    obtain ⟨code, jt, jf, k, rest, hcode, hk, rfl⟩ := exists_block (h ▸ Nat.le_add_left _ _)
    have hrest : rest.length = instructionSize * n := by
      simp only [List.length_append, List.length_cons, List.length_nil, hcode, hk,
        instructionSize] at h ⊢
      omega
    rw [decodeWords_block hcode hk, encode_cons, encodeWord_block hcode hk, ih hrest]

/-! ### Bytecode -/

/-- The number of bytes decides: there are none, they do not fall into whole blocks, there are too
    many blocks, or they are bytecode. -/
theorem decode_cases (bytes : Bytes) (order : ByteOrder) :
    (bytes.length = 0 ∧ decode bytes order = .error .empty) ∨
    (¬ instructionSize ∣ bytes.length ∧ decode bytes order = .error (.ragged bytes.length)) ∨
    (∃ n, bytes.length = instructionSize * n ∧ maxInstructions < n ∧
      decode bytes order = .error (.tooLong n)) ∨
    (∃ n, bytes.length = instructionSize * n ∧ 0 < n ∧ n ≤ maxInstructions ∧
      decode bytes order = .ok (decodeWords order bytes)) := by
  have hsize : 0 < instructionSize := by decide
  simp only [decode]
  by_cases hempty : bytes.length = 0
  · exact Or.inl ⟨hempty, if_pos hempty⟩
  rw [if_neg hempty]
  by_cases hragged : bytes.length % instructionSize ≠ 0
  · exact Or.inr (Or.inl ⟨mt Nat.mod_eq_zero_of_dvd hragged, if_pos hragged⟩)
  rw [if_neg hragged]
  obtain ⟨n, hn⟩ := Nat.dvd_of_mod_eq_zero (not_not.mp hragged)
  rw [hn, Nat.mul_div_cancel_left n hsize]
  by_cases hlong : maxInstructions < n
  · exact Or.inr (Or.inr (Or.inl ⟨n, rfl, hlong, if_pos hlong⟩))
  · refine Or.inr (Or.inr (Or.inr ⟨n, rfl, Nat.pos_of_ne_zero ?_, Nat.le_of_not_lt hlong,
      if_neg hlong⟩))
    rintro rfl
    exact hempty hn

/-- The bytecode of a filter is read back as the filter. -/
theorem decode_encode {f : Filter} (hne : f ≠ []) (hlen : f.length ≤ maxInstructions)
    (order : ByteOrder) : decode (f.encode order) order = .ok f := by
  have hpos := List.length_pos_iff.mpr hne
  have hbytes := length_encode f order
  have hsize : 0 < instructionSize := by decide
  rcases decode_cases (f.encode order) order with
    ⟨hempty, -⟩ | ⟨hragged, -⟩ | ⟨n, hn, hlong, -⟩ | ⟨n, -, -, -, hok⟩
  · exact absurd (hbytes.symm.trans hempty) (Nat.ne_of_gt (Nat.mul_pos hsize hpos))
  · exact absurd ⟨f.length, hbytes⟩ hragged
  · have hsame : n = f.length := Nat.eq_of_mul_eq_mul_left hsize (hn.symm.trans hbytes)
    omega
  · rw [hok, decodeWords_encode]

/-- The number of bytes alone decides whether bytes are bytecode. -/
theorem exists_decode_iff {bytes : Bytes} : (∃ f, decode bytes order = .ok f) ↔
    bytes.length ≠ 0 ∧ instructionSize ∣ bytes.length ∧
      bytes.length ≤ instructionSize * maxInstructions := by
  have hsize : 0 < instructionSize := by decide
  rcases decode_cases bytes order with
    ⟨hempty, h⟩ | ⟨hragged, h⟩ | ⟨n, hn, hlong, h⟩ | ⟨n, hn, hpos, hfits, h⟩
  · simp [h, hempty]
  · simp [h, hragged]
  · have hbytes := Nat.mul_lt_mul_of_pos_left hlong hsize
    simp [h, hn, hbytes]
  · have hbytes := Nat.mul_le_mul_left instructionSize hfits
    exact iff_of_true ⟨_, h⟩ ⟨hn ▸ Nat.ne_of_gt (Nat.mul_pos hsize hpos), ⟨n, hn⟩, hn ▸ hbytes⟩

/-- Bytecode is what the filter read from it is stored as. -/
theorem encode_of_decode {bytes : Bytes} {f : Filter} (hf : decode bytes order = .ok f) :
    f.length = bytes.length / instructionSize ∧ f.encode order = bytes := by
  rcases decode_cases bytes order with ⟨-, h⟩ | ⟨-, h⟩ | ⟨n, -, -, h⟩ | ⟨n, hn, -, -, h⟩
  · exact absurd (hf.symm.trans h) (by simp)
  · exact absurd (hf.symm.trans h) (by simp)
  · exact absurd (hf.symm.trans h) (by simp)
  · have hencode := @encode_decodeWords order n bytes hn
    rw [← Except.ok.inj (hf.symm.trans h)] at hencode
    refine ⟨?_, hencode⟩
    rw [← hencode, length_encode, Nat.mul_div_cancel_left f.length (by decide)]

/-- Bytes that are refused are refused for their number, and the error tells it. -/
theorem cause_of_decode {bytes : Bytes} {e : LengthError} (he : decode bytes order = .error e) :
    bytes.length = 0 ∧ e = .empty ∨
      ¬ instructionSize ∣ bytes.length ∧ e = .ragged bytes.length ∨
      instructionSize * maxInstructions < bytes.length ∧
        e = .tooLong (bytes.length / instructionSize) := by
  have hsize : 0 < instructionSize := by decide
  rcases decode_cases bytes order with
    ⟨hempty, h⟩ | ⟨hragged, h⟩ | ⟨n, hn, hlong, h⟩ | ⟨n, -, -, -, h⟩
  · exact Or.inl ⟨hempty, Except.error.inj (he.symm.trans h)⟩
  · exact Or.inr (Or.inl ⟨hragged, Except.error.inj (he.symm.trans h)⟩)
  · rw [hn, Nat.mul_div_cancel_left n hsize]
    exact Or.inr (Or.inr ⟨Nat.mul_lt_mul_of_pos_left hlong hsize,
      Except.error.inj (he.symm.trans h)⟩)
  · exact absurd (he.symm.trans h) (by simp)

theorem startsWith_message (e : LengthError) :
    e.message.startsWith (utf8 "invalid bpf program length: ") = true :=
  List.isPrefixOf_iff_prefix.mpr (List.prefix_append _ _)

/-- In either byte order: bytes are bytecode exactly when their number is not zero, a multiple of
    eight and at most 32768, they hold one instruction for every eight bytes, and they are what the
    filter read from them is stored as. Other bytes are refused as of an invalid length, which the
    error tells. Every filter of 1 to 4096 instructions is read back from its bytecode. -/
theorem decode_encode_inverse (order : ByteOrder) :
    (∀ bytes : Bytes, (∃ f, decode bytes order = .ok f) ↔
      bytes.length ≠ 0 ∧ 8 ∣ bytes.length ∧ bytes.length ≤ 32768) ∧
    (∀ (bytes : Bytes) (f : Filter), decode bytes order = .ok f →
      f.length = bytes.length / 8 ∧ f.encode order = bytes) ∧
    (∀ (bytes : Bytes) (e : LengthError), decode bytes order = .error e →
      e.message.startsWith (utf8 "invalid bpf program length: ") = true ∧
      (bytes.length = 0 ∧ e = .empty ∨
        ¬ 8 ∣ bytes.length ∧ e = .ragged bytes.length ∨
        32768 < bytes.length ∧ e = .tooLong (bytes.length / 8))) ∧
    (∀ f : Filter, 1 ≤ f.length → f.length ≤ 4096 → decode (f.encode order) order = .ok f) := by
  refine ⟨?_, ?_, ?_, ?_⟩
  · intro bytes
    exact exists_decode_iff
  · intro bytes f hf
    exact encode_of_decode hf
  · intro bytes e he
    exact ⟨startsWith_message e, cause_of_decode he⟩
  · intro f hpos hlen
    exact decode_encode (List.length_pos_iff.mp hpos) hlen order

end Filter

end SyscallFilter
