import Mathlib.Data.List.Forall2
import SyscallFilter.Filter

/-! Stored programs run like the programs they were made from. Emitted filters use four kinds of
    instructions only. Each of them is stored in one word, and the word is read back as an
    instruction that does the same, though it need not be the same instruction: a jump that does not
    skip when its test holds comes back as the opposite test with its offsets exchanged.

        jeq #k, 0, 1     ──▶  0x15 0 1 k  ──▶  jneq #k, 1, 0
        jneq #k, 3, 0    ──▶  0x15 0 3 k  ──▶  jneq #k, 3, 0
        jeq #k, 5, 0     ──▶  0x15 5 0 k  ──▶  jeq #k, 5, 0 -/

namespace SyscallFilter.Bpf

open SyscallFilter

/-- The instructions that filters are emitted with. -/
def Instruction.isEmitted : Instruction → Bool
  | .loadAbsolute offset width => offset ≤ lastOffset && width == .word
  | .jump _ => true
  | .jumpIf test _ _ _ => test == .equal || test == .notEqual || test == .greaterOrEqual
  | .retConstant _ => true
  | _ => false

/-- A word that is read back as an instruction with the same effect. -/
structure Keeps (w : Word) (i : Instruction) : Prop where
  understood : w.instruction?.isSome = true
  step : ∀ record r, w.disassemble.step record r = i.step record r
  fault : ∀ left, w.disassemble.fault? left = none ↔ i.fault? left = none
  isReturn : w.disassemble.isReturn = i.isReturn

/-! ### Words -/

theorem instruction?_load {offset : UInt32} (h : offset ≤ lastOffset) :
    (⟨0x20, 0, 0, offset⟩ : Word).instruction? = some (.loadAbsolute offset .word) := by
  have hlt : ¬ offset > lastOffset := UInt32.not_lt.mpr h
  simp +decide [Word.instruction?, disassembleLoad?, codeWidth?, hlt]

theorem instruction?_jump (skip : UInt32) :
    (⟨0x05, 0, 0, skip⟩ : Word).instruction? = some (.jump skip) := by
  simp +decide [Word.instruction?, disassembleJump?]

theorem instruction?_jeq (t f : UInt8) (k : UInt32) : (⟨0x15, t, f, k⟩ : Word).instruction? =
    some (if t = 0 then .jumpIf .notEqual k f 0 else .jumpIf .equal k t f) := by
  simp +decide [Word.instruction?, disassembleJump?, codeTest?, conditionalJump]

theorem instruction?_jge (t f : UInt8) (k : UInt32) : (⟨0x35, t, f, k⟩ : Word).instruction? =
    some (if t = 0 then .jumpIf .less k f 0 else .jumpIf .greaterOrEqual k t f) := by
  simp +decide [Word.instruction?, disassembleJump?, codeTest?, conditionalJump]

theorem instruction?_ret (value : UInt32) :
    (⟨0x06, 0, 0, value⟩ : Word).instruction? = some (.retConstant value) := by
  simp +decide [Word.instruction?]

theorem disassemble_of_instruction? {w : Word} {i : Instruction} (h : w.instruction? = some i) :
    w.disassemble = i := by
  rw [Word.disassemble, h, Option.getD_some]

/-! ### One instruction -/

/-- A word that is read back as the very same instruction. -/
theorem keeps_of_eq {w : Word} {i : Instruction} (h : w.instruction? = some i) : Keeps w i := by
  have hd : w.disassemble = i := disassemble_of_instruction? h
  exact ⟨by rw [h]; rfl, by rw [hd]; exact fun _ _ => rfl, by rw [hd]; exact fun _ => Iff.rfl,
    by rw [hd]⟩

theorem jumpFault?_eq_none {left : Nat} {t f : UInt8} :
    jumpFault? left t f = none ↔ t.toNat < left ∧ f.toNat < left := by
  unfold jumpFault?
  split
  · simp; omega
  · split
    · simp; omega
    · simp; omega

theorem skipBy_not (b : Bool) (t f : UInt8) : skipBy (!b) t f = skipBy b f t := by
  cases b <;> rfl

/-- A word that is read back as a test, or as its opposite where the test would not skip, keeps both
    of them. -/
theorem keeps_jumpIf {w : Word} {test opposite : Test}
    (h : w.instruction? = some (if w.jt = 0 then .jumpIf opposite w.k w.jf 0
      else .jumpIf test w.k w.jt w.jf))
    (hopp : ∀ a b, opposite.holds a b = !test.holds a b) :
    Keeps w (.jumpIf test w.k w.jt w.jf) ∧ Keeps w (.jumpIf opposite w.k w.jf w.jt) := by
  have hstep : ∀ (record : Bytes) (r : Registers),
      (Instruction.jumpIf opposite w.k w.jf w.jt).step record r =
        (Instruction.jumpIf test w.k w.jt w.jf).step record r := by
    intro record r
    simp only [Instruction.step, hopp, skipBy_not]
  have hfault : ∀ left, (Instruction.jumpIf opposite w.k w.jf w.jt).fault? left = none ↔
      (Instruction.jumpIf test w.k w.jt w.jf).fault? left = none := by
    intro left
    simp only [Instruction.fault?, jumpFault?_eq_none, and_comm]
  by_cases hz : w.jt = 0
  · have hk : Keeps w (.jumpIf opposite w.k w.jf w.jt) := keeps_of_eq (by rw [h, if_pos hz, hz])
    exact ⟨⟨hk.understood, fun record r => (hk.step record r).trans (hstep record r),
      fun left => (hk.fault left).trans (hfault left), hk.isReturn⟩, hk⟩
  · have hk : Keeps w (.jumpIf test w.k w.jt w.jf) := keeps_of_eq (by rw [h, if_neg hz])
    exact ⟨hk, ⟨hk.understood, fun record r => (hk.step record r).trans (hstep record r).symm,
      fun left => (hk.fault left).trans (hfault left).symm, hk.isReturn⟩⟩

theorem keeps_jeq (t f : UInt8) (k : UInt32) :
    Keeps ⟨0x15, t, f, k⟩ (.jumpIf .equal k t f) ∧
      Keeps ⟨0x15, t, f, k⟩ (.jumpIf .notEqual k f t) :=
  keeps_jumpIf (instruction?_jeq t f k) fun _ _ => rfl

theorem keeps_jge (t f : UInt8) (k : UInt32) :
    Keeps ⟨0x35, t, f, k⟩ (.jumpIf .greaterOrEqual k t f) ∧
      Keeps ⟨0x35, t, f, k⟩ (.jumpIf .less k f t) := by
  refine keeps_jumpIf (instruction?_jge t f k) (fun a b => ?_)
  simp [Test.holds, ← UInt32.not_le]

/-- An emitted instruction is stored in a word that keeps it. -/
theorem assemble_emitted {i : Instruction} (h : i.isEmitted = true) :
    ∃ w, i.assemble = .ok w ∧ Keeps w i := by
  cases i with
  | loadAbsolute offset width =>
    simp only [Instruction.isEmitted, Bool.and_eq_true, decide_eq_true_eq, beq_iff_eq] at h
    obtain ⟨hle, rfl⟩ := h
    exact ⟨_, rfl, keeps_of_eq (instruction?_load hle)⟩
  | jump skip => exact ⟨_, rfl, keeps_of_eq (instruction?_jump skip)⟩
  | jumpIf test k t f =>
    cases test with
    | equal => exact ⟨_, rfl, (keeps_jeq t f k).1⟩
    | notEqual => exact ⟨_, rfl, (keeps_jeq f t k).2⟩
    | greaterOrEqual => exact ⟨_, rfl, (keeps_jge t f k).1⟩
    | _ => simp [Instruction.isEmitted] at h
  | retConstant value => exact ⟨_, rfl, keeps_of_eq (instruction?_ret value)⟩
  | _ => simp [Instruction.isEmitted] at h

/-! ### Programs -/

/-- Emitted instructions are stored in as many words that keep them. -/
theorem assembleFrom_emitted : ∀ (index : Nat) {program : List Instruction},
    (∀ i ∈ program, i.isEmitted = true) →
    ∃ words, assembleFrom index program = .ok words ∧ List.Forall₂ Keeps words program
  | _, [], _ => ⟨[], rfl, .nil⟩
  | index, i :: rest, h => by
    obtain ⟨w, hw, hk⟩ := assemble_emitted (h i List.mem_cons_self)
    obtain ⟨ws, hws, hks⟩ := assembleFrom_emitted (index + 1)
      (fun j hj => h j (List.mem_cons_of_mem i hj))
    refine ⟨w :: ws, ?_, .cons hk hks⟩
    rw [assembleFrom, hw]
    simp only [hws]

theorem length_of_assembleFrom : ∀ {index : Nat} {program : List Instruction}
    {words : List Word}, assembleFrom index program = .ok words → words.length = program.length
  | _, [], _, h => (congrArg List.length (Except.ok.inj h)).symm
  | index, i :: rest, words, h => by
    rw [assembleFrom] at h
    cases hi : i.assemble with
    | error e => simp [hi] at h
    | ok w =>
      cases hrest : assembleFrom (index + 1) rest with
      | error e => simp [hi, hrest] at h
      | ok ws =>
        simp only [hi, hrest] at h
        rw [← Except.ok.inj h, List.length_cons, List.length_cons, length_of_assembleFrom hrest]

section Kept

variable {words : List Word} {program : List Instruction} (h : List.Forall₂ Keeps words program)
include h

theorem isUnderstood_of_kept : isUnderstood words = true := by
  induction h with
  | nil => rfl
  | cons hk _ ih => simpa [isUnderstood, hk.understood] using ih

/-- A stored program runs like the program it keeps. -/
theorem exec_of_kept (record : Bytes) (index skip : Nat) (r : Registers) :
    exec record index skip r (words.map Word.disassemble) = exec record index skip r program := by
  induction h generalizing index skip r with
  | nil => rfl
  | cons hk _ ih =>
    cases skip with
    | succ skip => exact ih (index + 1) skip r
    | zero =>
      rw [List.map_cons, exec, exec, hk.step]
      split
      · exact ih (index + 1) _ _
      · rfl
      · rfl

theorem faultFrom?_of_kept (count : Nat) :
    faultFrom? count (words.map Word.disassemble) = none ↔ faultFrom? count program = none := by
  induction h generalizing count with
  | nil => exact Iff.rfl
  | @cons w i ws is hk _ ih =>
    have hfault := hk.fault (count - 1)
    rw [List.map_cons, faultFrom?, faultFrom?]
    cases hw : w.disassemble.fault? (count - 1) with
    | some e =>
      cases hi : i.fault? (count - 1) with
      | some e' => simp
      | none => rw [hw, hi] at hfault; simp at hfault
    | none =>
      rw [hfault.mp hw]
      exact ih (count - 1)

theorem getLast?_of_kept : (words.map Word.disassemble).getLast?.any Instruction.isReturn =
    program.getLast?.any Instruction.isReturn := by
  induction h with
  | nil => rfl
  | cons hk hrest ih =>
    cases hrest with
    | nil => exact hk.isReturn
    | cons _ _ => simpa only [List.map_cons, List.getLast?_cons_cons] using ih

end Kept

/-! ### Loading -/

/-- Every instruction, with what stands behind it, is without a fault. -/
def Loads (program : List Instruction) : Prop := faultFrom? program.length program = none

theorem loads_cons {i : Instruction} {rest : List Instruction} :
    Loads (i :: rest) ↔ i.fault? rest.length = none ∧ Loads rest := by
  rw [Loads, Loads, faultFrom?, List.length_cons, Nat.add_sub_cancel]
  cases i.fault? rest.length with
  | some e => simp
  | none => simp

section Loading

variable {rest : List Instruction} (h : Loads rest)
include h

theorem loads_load {offset : UInt32} {width : Width} : Loads (.loadAbsolute offset width :: rest) :=
  loads_cons.mpr ⟨rfl, h⟩

theorem loads_ret {value : UInt32} : Loads (.retConstant value :: rest) :=
  loads_cons.mpr ⟨rfl, h⟩

theorem loads_jump {skip : UInt32} (hskip : skip.toNat < rest.length) :
    Loads (.jump skip :: rest) :=
  loads_cons.mpr ⟨if_neg (Nat.not_le_of_lt hskip), h⟩

/-- A conditional jump loads when both its offsets stay inside the program. -/
theorem loads_jumpIf {test : Test} {k : UInt32} {t f : UInt8} (ht : t.toNat < rest.length)
    (hf : f.toNat < rest.length) : Loads (.jumpIf test k t f :: rest) :=
  loads_cons.mpr ⟨jumpFault?_eq_none.mpr ⟨ht, hf⟩, h⟩

end Loading

/-- A program loads when it ends with a return and none of its instructions has a fault. -/
theorem loadFault?_eq_none {program : List Instruction} : loadFault? program = none ↔
    program.getLast?.any Instruction.isReturn = true ∧ Loads program := by
  unfold loadFault? Loads
  cases program.getLast? with
  | none => simp
  | some last =>
    cases faultFrom? program.length program with
    | some e => simp
    | none => cases hr : last.isReturn <;> simp [hr]

end SyscallFilter.Bpf

namespace SyscallFilter.Filter

open Bpf

/-- Emitted instructions that load make a filter, whose verdict on a call is what they answer on the
    call's record. -/
theorem ofInstructions_emitted {program : List Instruction}
    (hlen : program.length ≤ maxInstructions) (hemit : ∀ i ∈ program, i.isEmitted = true)
    (hload : loadFault? program = none) :
    ∃ f, ofInstructions program = .ok f ∧ f.length = program.length ∧
      ∀ (c : Call) (v : UInt32), run program c.record = .ok v → f.evaluate c = .ok v := by
  obtain ⟨words, hwords, hkept⟩ := assembleFrom_emitted 1 hemit
  obtain ⟨hret, hfault⟩ := loadFault?_eq_none.mp hload
  have hload' : loadFault? (words.map Word.disassemble) = none := by
    refine loadFault?_eq_none.mpr ⟨(getLast?_of_kept hkept).trans hret, ?_⟩
    rw [Loads, List.length_map, hkept.length_eq]
    exact (faultFrom?_of_kept hkept program.length).mpr hfault
  refine ⟨words, ?_, hkept.length_eq, ?_⟩
  · rw [ofInstructions, if_neg (by omega), assemble, hwords]
  · intro c v hrun
    have hrun' : run (words.map Word.disassemble) c.record = .ok v := by
      rw [run, exec_of_kept hkept]
      exact hrun
    rw [evaluate, disassemble?, if_pos (isUnderstood_of_kept hkept)]
    simp only [instructions, hload', hrun']

/-- A filter has no more instructions than a filter may have. -/
theorem length_of_ofInstructions {program : List Instruction} {f : Filter}
    (h : ofInstructions program = .ok f) : f.length ≤ maxInstructions := by
  unfold ofInstructions at h
  split at h
  · exact absurd h (by simp)
  · next hlen =>
    cases hwords : assemble program with
    | error e => simp [hwords] at h
    | ok words =>
      rw [hwords] at h
      rw [← Except.ok.inj h, length_of_assembleFrom hwords]
      exact Nat.le_of_not_lt hlen

/-- A filter that gives a verdict is not empty and can be taken apart. -/
theorem disassemble?_of_evaluate {f : Filter} {call : Call} {verdict : UInt32}
    (h : f.evaluate call = .ok verdict) : f ≠ [] ∧ f.disassemble? = some f.instructions := by
  unfold evaluate at h
  cases hd : f.disassemble? with
  | none => simp [hd] at h
  | some program =>
    have hprogram : f.instructions = program := by
      unfold disassemble? at hd
      split at hd
      · exact Option.some.inj hd
      · exact absurd hd (by simp)
    refine ⟨?_, by rw [hprogram]⟩
    rintro rfl
    rw [hd, ← hprogram] at h
    exact absurd h (by simp [instructions, loadFault?])

end SyscallFilter.Filter
