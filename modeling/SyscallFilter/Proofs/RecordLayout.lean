import SyscallFilter.Proofs.Execution
import SyscallFilter.Proofs.Storage

/-! What a filter can learn about a call by loading words of its record. The load at each multiple
    of four gives back one field or one half of a field, whole and untouched by its neighbours; a
    load that reaches behind the record ends the run with zero, up to the offsets that are taken for
    extensions:

        0        4        8     12     16 + 8i      20 + 8i      61 …             0xfffff000 …
        number   arch     low   high   low          high         outside: zero    extensions
                          address      argument i

    Since the fields can be put together from these words, no two calls look the same to all of the
    sixteen loads. -/

namespace SyscallFilter

open Bpf

/-! ### Words of the fields -/

namespace Call

/-- The words of values of 64 bits alternate between low and high halves. -/
theorem getElem?_halves : ∀ (values : List UInt64) (i : Nat),
    (values.flatMap halves)[2 * i]? = values[i]?.map (·.toUInt32) ∧
      (values.flatMap halves)[2 * i + 1]? = values[i]?.map fun v : UInt64 => (v >>> 32).toUInt32
  | [], _ => ⟨rfl, rfl⟩
  | _ :: _, 0 => ⟨rfl, rfl⟩
  | _ :: values, i + 1 => getElem?_halves values i

theorem toUInt32_eq_mod (v : UInt64) : v.toUInt32 = .ofNat (v.toNat % 0x100000000) := by
  rw [← UInt32.toNat_inj, UInt64.toNat_toUInt32, UInt32.toNat_ofNat', Nat.mod_mod]

theorem toUInt32_shift_eq_div (v : UInt64) :
    (v >>> 32).toUInt32 = .ofNat (v.toNat / 0x100000000) := by
  rw [← UInt32.toNat_inj, UInt64.toNat_toUInt32, UInt32.toNat_ofNat', UInt64.toNat_shiftRight,
    Nat.shiftRight_eq_div_pow]
  rfl

/-- A value of 64 bits is determined by its two words. -/
theorem eq_of_words {v w : UInt64}
    (hlow : UInt32.ofNat (v.toNat % 0x100000000) = .ofNat (w.toNat % 0x100000000))
    (hhigh : UInt32.ofNat (v.toNat / 0x100000000) = .ofNat (w.toNat / 0x100000000)) : v = w := by
  have hv := v.toNat_lt
  have hw := w.toNat_lt
  rw [← UInt32.toNat_inj, UInt32.toNat_ofNat', UInt32.toNat_ofNat'] at hlow hhigh
  rw [← UInt64.toNat_inj]
  omega

theorem length_record (c : Call) : c.record.length = 64 := by
  have hwords : c.words.length = 16 := by
    simp [words, halves, List.length_flatMap]
  rw [record_eq, length_words, hwords]

end Call

/-- A load that reaches behind the record gives nothing. -/
theorem Bpf.fetch?_outside (c : Call) {offset : Nat} (h : 60 < offset) :
    fetch? c.record offset .word = none := by
  have hlen : ((c.record.drop offset).take 4).length ≠ 4 := by
    rw [List.length_take, List.length_drop, Call.length_record]
    omega
  exact if_neg hlen

/-! ### Probes -/

namespace Filter

/-- The filter that loads the word at an offset and answers with it. -/
def probe (offset : UInt32) : Filter := [⟨0x20, 0, 0, offset⟩, ⟨0x16, 0, 0, 0⟩]

theorem ofInstructions_probe (offset : UInt32) :
    ofInstructions [.loadAbsolute offset .word, .retAccumulator] = .ok (probe offset) := rfl

theorem disassemble?_probe {offset : UInt32} (h : offset ≤ lastOffset) :
    (probe offset).disassemble? = some [.loadAbsolute offset .word, .retAccumulator] := by
  have hload := instruction?_load h
  have hret : (⟨0x16, 0, 0, 0⟩ : Word).instruction? = some .retAccumulator := by decide
  simp [disassemble?, isUnderstood, instructions, probe, Word.disassemble, hload, hret]

/-- A probe answers with what is at its offset, or with zero where there is nothing. -/
theorem evaluate_probe {offset : UInt32} (h : offset ≤ lastOffset) (c : Call) :
    (probe offset).evaluate c = .ok ((fetch? c.record offset.toNat .word).getD 0) := by
  have hload : loadFault? [.loadAbsolute offset .word, .retAccumulator] = none := rfl
  rw [evaluate, disassemble?_probe h]
  simp only [hload, run, exec, Instruction.step]
  cases fetch? c.record offset.toNat .word with
  | none => rfl
  | some value => rfl

/-- A probe at a multiple of four answers with the word that stands there. -/
theorem evaluate_probe_word {c : Call} {j : Nat} {w : UInt32} (hj : j < 16)
    (hw : c.words[j]? = some w) : (probe (.ofNat (4 * j))).evaluate c = .ok w := by
  have hoffset : (UInt32.ofNat (4 * j)).toNat = 4 * j :=
    UInt32.toNat_ofNat_of_lt' (show 4 * j < 2 ^ 32 by omega)
  have hle : UInt32.ofNat (4 * j) ≤ lastOffset := by
    rw [UInt32.le_iff_toNat_le, hoffset]
    simp only [lastOffset, UInt32.reduceToNat]
    omega
  rw [evaluate_probe hle, hoffset, Call.record_eq, fetch?_words, hw]
  rfl

end Filter

/-! ### The layout -/

open SyscallFilter.Filter

/-- What the probes answer on a call. -/
structure Call.LaidOut (c : Call) : Prop where
  number : (probe 0).evaluate c = .ok c.number.toUInt32
  arch : (probe 4).evaluate c = .ok c.arch
  addressLow : (probe 8).evaluate c = .ok (.ofNat (c.address.toNat % 0x100000000))
  addressHigh : (probe 12).evaluate c = .ok (.ofNat (c.address.toNat / 0x100000000))
  argumentLow : ∀ i : Fin 6, (probe (.ofNat (4 * (4 + 2 * i)))).evaluate c =
    .ok (.ofNat (c.arguments[i].toNat % 0x100000000))
  argumentHigh : ∀ i : Fin 6, (probe (.ofNat (4 * (5 + 2 * i)))).evaluate c =
    .ok (.ofNat (c.arguments[i].toNat / 0x100000000))
  outside : ∀ offset : UInt32, 60 < offset → offset < 0xfffff000 →
    (probe offset).evaluate c = .ok 0

theorem Call.laidOut (c : Call) : c.LaidOut where
  number := evaluate_probe_word (by decide : 0 < 16) rfl
  arch := evaluate_probe_word (by decide : 1 < 16) rfl
  addressLow := by
    rw [← toUInt32_eq_mod]
    exact evaluate_probe_word (by decide : 2 < 16) rfl
  addressHigh := by
    rw [← toUInt32_shift_eq_div]
    exact evaluate_probe_word (by decide : 3 < 16) rfl
  argumentLow i := by
    have hword : c.words[4 + 2 * i.val]? = some c.arguments[i].toUInt32 := by
      rw [Nat.add_comm]
      refine (getElem?_halves c.arguments.toList i).1.trans ?_
      simp
    rw [← toUInt32_eq_mod]
    exact evaluate_probe_word (by omega) hword
  argumentHigh i := by
    have hword : c.words[5 + 2 * i.val]? = some (c.arguments[i] >>> 32).toUInt32 := by
      rw [Nat.add_comm]
      refine (getElem?_halves c.arguments.toList i).2.trans ?_
      simp
    rw [← toUInt32_shift_eq_div]
    exact evaluate_probe_word (by omega) hword
  outside offset hfrom hto := by
    have hle : offset ≤ lastOffset := by
      rw [UInt32.lt_iff_toNat_lt] at hto
      rw [UInt32.le_iff_toNat_le]
      simp only [lastOffset, UInt32.reduceToNat] at hto ⊢
      omega
    rw [evaluate_probe hle, fetch?_outside c (UInt32.lt_iff_toNat_lt.mp hfrom)]
    rfl

/-- Calls on which all sixteen probes inside the record answer alike are the same. -/
theorem Call.eq_of_probes {c d : Call} (h : ∀ j : Fin 16,
    (probe (.ofNat (4 * j))).evaluate c = (probe (.ofNat (4 * j))).evaluate d) : c = d := by
  have hc := c.laidOut
  have hd := d.laidOut
  have hnumber : c.number = d.number := by
    have hword := Except.ok.inj (hc.number.symm.trans ((h 0).trans hd.number))
    rw [← Int32.toInt32_toUInt32 c.number, hword, Int32.toInt32_toUInt32]
  have harch : c.arch = d.arch := Except.ok.inj (hc.arch.symm.trans ((h 1).trans hd.arch))
  have haddress : c.address = d.address := eq_of_words
    (Except.ok.inj (hc.addressLow.symm.trans ((h 2).trans hd.addressLow)))
    (Except.ok.inj (hc.addressHigh.symm.trans ((h 3).trans hd.addressHigh)))
  have hargument : ∀ i : Fin 6, c.arguments[i] = d.arguments[i] := fun i => eq_of_words
    (Except.ok.inj ((hc.argumentLow i).symm.trans
      ((h ⟨4 + 2 * i, by omega⟩).trans (hd.argumentLow i))))
    (Except.ok.inj ((hc.argumentHigh i).symm.trans
      ((h ⟨5 + 2 * i, by omega⟩).trans (hd.argumentHigh i))))
  cases c
  cases d
  rw [Call.mk.injEq]
  exact ⟨hnumber, harch, haddress, Vector.ext fun i hi => hargument ⟨i, hi⟩⟩

/-- The filters that load one word and answer with it give back every field of a call, word by word,
    and zero behind the record. So two calls that differ in any field are told apart by one of the
    sixteen such filters inside the record. -/
theorem Call.laidOut_and_told_apart :
    (∀ offset, ofInstructions [.loadAbsolute offset .word, .retAccumulator] =
      .ok (probe offset)) ∧
    (∀ c : Call, c.LaidOut) ∧
    ∀ c d : Call, c ≠ d ↔ ∃ j : Fin 16,
      (probe (.ofNat (4 * j))).evaluate c ≠ (probe (.ofNat (4 * j))).evaluate d := by
  refine ⟨ofInstructions_probe, laidOut, fun c d => ⟨fun hne => ?_, ?_⟩⟩
  · by_contra hnone
    exact hne (eq_of_probes fun j => not_not.mp fun hj => hnone ⟨j, hj⟩)
  · rintro ⟨j, hj⟩ rfl
    exact hj rfl

/-- The sign of a number and the high half of an argument come through. -/
example : (probe 0).evaluate { number := -2 } = .ok 0xfffffffe ∧
    (probe 60).evaluate { arguments := #v[0, 0, 0, 0, 0, 0x123456789abcdef0] } = .ok 0x12345678 ∧
    (probe 61).evaluate { arguments := #v[0, 0, 0, 0, 0, 0x123456789abcdef0] } = .ok 0 := by
  decide +kernel

end SyscallFilter
