import Mathlib.Algebra.Ring.Nat
import SyscallFilter.Bpf.Machine
import SyscallFilter.Call

/-! What the machine does with the instructions of a filter. The record of a call is a row of words,
    and a load of four bytes at a multiple of four gives back the word that stands there, or nothing
    behind the last one. A jump passes over the instructions behind it, whatever they are. -/

namespace SyscallFilter

/-! ### Stored numbers -/

namespace ByteOrder

theorem length_lowBytes : ∀ (count n : Nat), (lowBytes count n).length = count
  | 0, _ => rfl
  | count + 1, n => by rw [lowBytes, List.length_cons, length_lowBytes count]

/-- Stored bytes stand for the number, cut to the bytes that were stored. -/
theorem ofLowBytes_lowBytes : ∀ (count n : Nat), ofLowBytes (lowBytes count n) = n % 256 ^ count
  | 0, n => by rw [lowBytes, ofLowBytes, Nat.pow_zero, Nat.mod_one]
  | count + 1, n => by
    rw [lowBytes, ofLowBytes, ofLowBytes_lowBytes count, Nat.pow_succ', Nat.mod_mul]
    rfl

theorem length_write (order : ByteOrder) (count n : Nat) :
    (order.write count n).length = count := by
  cases order with
  | little => exact length_lowBytes count n
  | big => rw [write, List.length_reverse, length_lowBytes]

theorem read_write (order : ByteOrder) (count n : Nat) :
    order.read (order.write count n) = n % 256 ^ count := by
  cases order with
  | little => exact ofLowBytes_lowBytes count n
  | big => rw [write, read, List.reverse_reverse, ofLowBytes_lowBytes]

end ByteOrder

/-! ### Words of the record -/

namespace Call

/-- The two words of a value of 64 bits, the low one first. -/
def halves (v : UInt64) : List UInt32 := [v.toUInt32, (v >>> 32).toUInt32]

/-- The words of a call's record, in order. -/
def words (c : Call) : List UInt32 :=
  [c.number.toUInt32, c.arch] ++ halves c.address ++ c.arguments.toList.flatMap halves

theorem length_word (w : UInt32) : (word w).length = 4 := ByteOrder.length_write .big 4 _

theorem length_words (ws : List UInt32) : (ws.flatMap word).length = 4 * ws.length := by
  induction ws with
  | nil => rfl
  | cons w ws ih =>
    rw [List.flatMap_cons, List.length_append, length_word, ih, List.length_cons]
    omega

theorem read_word (w : UInt32) : UInt32.ofNat (ByteOrder.big.read (word w)) = w := by
  have hlt : w.toNat < 256 ^ 4 := w.toNat_lt
  rw [word, ByteOrder.read_write, Nat.mod_eq_of_lt hlt]
  exact UInt32.ofNat_toNat

/-- A word that is put behind the words of a record takes the place of zeros. -/
theorem putWord_words (ws : List UInt32) (w : UInt32) (n : Nat) :
    putWord (ws.flatMap word ++ List.replicate (4 + n) 0) (4 * ws.length) w =
      (ws ++ [w]).flatMap word ++ List.replicate n 0 := by
  have hlen : (ws.flatMap word).length = 4 * ws.length := length_words ws
  rw [putWord, ← hlen, List.take_left, ← List.drop_drop, List.drop_left, List.drop_replicate,
    Nat.add_sub_cancel_left, List.flatMap_append, List.flatMap_singleton]

theorem putDoubleWord_words (ws : List UInt32) (v : UInt64) (n : Nat) :
    putDoubleWord (ws.flatMap word ++ List.replicate (8 + n) 0) (4 * ws.length) v =
      (ws ++ halves v).flatMap word ++ List.replicate n 0 := by
  have hlow := putWord_words ws v.toUInt32 (4 + n)
  have hhigh := putWord_words (ws ++ [v.toUInt32]) (v >>> 32).toUInt32 n
  rw [← Nat.add_assoc] at hlow
  rw [List.length_append, Nat.mul_add, List.append_assoc] at hhigh
  rw [putDoubleWord, hlow]
  exact hhigh

theorem putDoubleWords_words (ws : List UInt32) (values : List UInt64) :
    putDoubleWords (ws.flatMap word ++ List.replicate (8 * values.length) 0) (4 * ws.length)
      values = (ws ++ values.flatMap halves).flatMap word := by
  induction values generalizing ws with
  | nil => simp [putDoubleWords]
  | cons v values ih =>
    have hnext : 4 * ws.length + 8 = 4 * (ws ++ halves v).length := by
      rw [List.length_append]
      exact (Nat.mul_add 4 ws.length 2).symm
    rw [putDoubleWords, List.length_cons, Nat.mul_succ, Nat.add_comm, putDoubleWord_words, hnext,
      ih, List.append_assoc, List.flatMap_cons]

/-- The record is its words, one behind another: every byte of it is put there. -/
theorem record_eq (c : Call) : c.record = c.words.flatMap word := by
  have hnumber : putWord (List.replicate recordSize 0) numberOffset.toNat c.number.toUInt32 =
      [c.number.toUInt32].flatMap word ++ List.replicate 60 0 := putWord_words [] _ 60
  have harch : putWord ([c.number.toUInt32].flatMap word ++ List.replicate 60 0)
      archOffset.toNat c.arch = [c.number.toUInt32, c.arch].flatMap word ++ List.replicate 56 0 :=
    putWord_words [c.number.toUInt32] _ 56
  have haddress : putDoubleWord ([c.number.toUInt32, c.arch].flatMap word ++ List.replicate 56 0)
      addressOffset.toNat c.address =
        ([c.number.toUInt32, c.arch] ++ halves c.address).flatMap word ++ List.replicate 48 0 :=
    putDoubleWord_words [c.number.toUInt32, c.arch] _ 48
  have harguments :=
    putDoubleWords_words ([c.number.toUInt32, c.arch] ++ halves c.address) c.arguments.toList
  rw [Vector.length_toList] at harguments
  simp only [record, hnumber, harch, haddress]
  exact harguments

end Call

namespace Bpf

/-- A load of four bytes gives back the word at its place in a row of words. -/
theorem fetch?_words : ∀ (ws : List UInt32) (j : Nat),
    fetch? (ws.flatMap Call.word) (4 * j) .word = ws[j]?
  | [], j => by simp [fetch?, Width.bytes]
  | w :: ws, 0 => by simp [fetch?, Width.bytes, Call.length_word, Call.read_word]
  | w :: ws, j + 1 => by
    have hdrop : ((w :: ws).flatMap Call.word).drop (4 * (j + 1)) =
        (ws.flatMap Call.word).drop (4 * j) := by
      rw [List.flatMap_cons, Nat.mul_succ, Nat.add_comm, ← List.drop_drop,
        List.drop_left' (Call.length_word w)]
    have ih := fetch?_words ws j
    rw [fetch?] at ih ⊢
    rw [hdrop, ih, List.getElem?_cons_succ]

theorem fetch?_number (c : Call) :
    fetch? c.record Call.numberOffset.toNat .word = some c.number.toUInt32 := by
  rw [Call.record_eq]
  exact fetch?_words c.words 0

theorem fetch?_arch (c : Call) : fetch? c.record Call.archOffset.toNat .word = some c.arch := by
  rw [Call.record_eq]
  exact fetch?_words c.words 1

/-! ### Steps -/

section Steps

variable {record : Bytes} {index : Nat} {r : Registers} {rest : List Instruction}

theorem exec_load {offset value : UInt32} (h : fetch? record offset.toNat .word = some value) :
    exec record index 0 r (.loadAbsolute offset .word :: rest) =
      exec record (index + 1) 0 { r with a := value } rest := by
  simp only [exec, Instruction.step, h, Registers.nextA]

theorem exec_jumpIf {test : Test} {k : UInt32} {t f : UInt8} :
    exec record index 0 r (.jumpIf test k t f :: rest) =
      exec record (index + 1) (if test.holds r.a k then t.toNat else f.toNat) r rest := rfl

theorem exec_jump {skip : UInt32} : exec record index 0 r (.jump skip :: rest) =
    exec record (index + 1) skip.toNat r rest := rfl

/-- A skip passes over whole instructions. -/
theorem exec_skip : ∀ (passed : List Instruction) (index skip : Nat),
    exec record index (passed.length + skip) r (passed ++ rest) =
      exec record (index + passed.length) skip r rest
  | [], index, skip => by rw [List.length_nil, Nat.zero_add, List.nil_append, Nat.add_zero]
  | i :: passed, index, skip => by
    rw [List.length_cons, Nat.add_right_comm, List.cons_append, exec, exec_skip passed (index + 1)]
    congr 1
    omega

end Steps

end Bpf

end SyscallFilter
