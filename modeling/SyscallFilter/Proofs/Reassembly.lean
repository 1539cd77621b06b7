import SyscallFilter.Proofs.GroupedForm

/-! What is shown of an emitted filter can be assembled again. A jump that would not skip where its
    test holds is shown as the opposite test, so the instructions shown need not be the ones that
    were emitted. But the opposite test is stored with its offsets exchanged, which brings it back
    to the word that it was read from:

        emitted           stored          shown             stored again
        jeq #k, 0, 1      0x15 0 1 k      jneq #k, 1, 0     0x15 0 1 k
        jeq #k, 5, 0      0x15 5 0 k      jeq #k, 5, 0      0x15 5 0 k

    So a filter in either form and the instructions shown of it determine each other. -/

namespace SyscallFilter.Bpf

/-- A word that is read back as an instruction which is stored in this very word. -/
def Restores (w : Word) : Prop := w.disassemble.assemble = .ok w

/-! ### One instruction -/

theorem restores_of_eq {w : Word} {i : Instruction} (h : w.instruction? = some i)
    (hi : i.assemble = .ok w) : Restores w := by
  rw [Restores, disassemble_of_instruction? h, hi]

/-- A word in which a test and, with the offsets exchanged, its opposite are stored is restored,
    whichever of the two it is read as. -/
theorem restores_jumpIf {w : Word} {test opposite : Test}
    (h : w.instruction? = some (if w.jt = 0 then .jumpIf opposite w.k w.jf 0
      else .jumpIf test w.k w.jt w.jf))
    (htest : (Instruction.jumpIf test w.k w.jt w.jf).assemble = .ok w)
    (hopp : (Instruction.jumpIf opposite w.k w.jf w.jt).assemble = .ok w) : Restores w := by
  by_cases hz : w.jt = 0
  · rw [hz] at hopp
    exact restores_of_eq (h.trans (congrArg some (if_pos hz))) hopp
  · exact restores_of_eq (h.trans (congrArg some (if_neg hz))) htest

theorem restores_jeq (t f : UInt8) (k : UInt32) : Restores ⟨0x15, t, f, k⟩ :=
  restores_jumpIf (instruction?_jeq t f k) rfl rfl

theorem restores_jge (t f : UInt8) (k : UInt32) : Restores ⟨0x35, t, f, k⟩ :=
  restores_jumpIf (instruction?_jge t f k) rfl rfl

/-- The word of an emitted instruction is restored. -/
theorem restores_emitted {i : Instruction} {w : Word} (h : i.isEmitted = true)
    (hw : i.assemble = .ok w) : Restores w := by
  cases i with
  | loadAbsolute offset width =>
    simp only [Instruction.isEmitted, Bool.and_eq_true, decide_eq_true_eq, beq_iff_eq] at h
    obtain ⟨hle, rfl⟩ := h
    obtain rfl : ⟨0x20, 0, 0, offset⟩ = w := Except.ok.inj hw
    exact restores_of_eq (instruction?_load hle) rfl
  | jump skip =>
    obtain rfl : ⟨0x05, 0, 0, skip⟩ = w := Except.ok.inj hw
    exact restores_of_eq (instruction?_jump skip) rfl
  | jumpIf test k t f =>
    cases test with
    | equal =>
      obtain rfl : ⟨0x15, t, f, k⟩ = w := Except.ok.inj hw
      exact restores_jeq t f k
    | notEqual =>
      obtain rfl : ⟨0x15, f, t, k⟩ = w := Except.ok.inj hw
      exact restores_jeq f t k
    | greaterOrEqual =>
      obtain rfl : ⟨0x35, t, f, k⟩ = w := Except.ok.inj hw
      exact restores_jge t f k
    | _ => simp [Instruction.isEmitted] at h
  | retConstant value =>
    obtain rfl : ⟨0x06, 0, 0, value⟩ = w := Except.ok.inj hw
    exact restores_of_eq (instruction?_ret value) rfl
  | _ => simp [Instruction.isEmitted] at h

/-! ### Programs -/

/-- Every word of a stored program is the word of one of its instructions. -/
theorem mem_of_assembleFrom : ∀ {index : Nat} {program : List Instruction} {words : List Word},
    assembleFrom index program = .ok words → ∀ w ∈ words, ∃ i ∈ program, i.assemble = .ok w
  | _, [], words, h, w, hw => by
    rw [← Except.ok.inj h] at hw
    exact absurd hw List.not_mem_nil
  | index, i :: rest, words, h, w, hw => by
    rw [assembleFrom] at h
    cases hi : i.assemble with
    | error e => simp [hi] at h
    | ok v =>
      cases hrest : assembleFrom (index + 1) rest with
      | error e => simp [hi, hrest] at h
      | ok vs =>
        simp only [hi, hrest] at h
        rw [← Except.ok.inj h] at hw
        rcases List.mem_cons.mp hw with rfl | hmem
        · exact ⟨i, List.mem_cons_self, hi⟩
        · obtain ⟨j, hj, hjw⟩ := mem_of_assembleFrom hrest w hmem
          exact ⟨j, List.mem_cons_of_mem i hj, hjw⟩

/-- Words that are restored one by one are restored as a program. -/
theorem assembleFrom_disassemble : ∀ (index : Nat) {words : List Word},
    (∀ w ∈ words, Restores w) → assembleFrom index (words.map Word.disassemble) = .ok words
  | _, [], _ => rfl
  | index, w :: words, h => by
    have hw : w.disassemble.assemble = .ok w := h w List.mem_cons_self
    have hrest := assembleFrom_disassemble (index + 1)
      fun v hv => h v (List.mem_cons_of_mem w hv)
    simp only [List.map_cons, assembleFrom, hw, hrest]

end SyscallFilter.Bpf

namespace SyscallFilter

open Bpf

/-- What is shown of a filter made from emitted instructions makes the same filter. -/
theorem Filter.ofInstructions_disassemble? {program : List Instruction} {f : Filter}
    (hemit : ∀ i ∈ program, i.isEmitted = true) (h : ofInstructions program = .ok f) :
    f.disassemble? = some f.instructions ∧ ofInstructions f.instructions = .ok f := by
  have hlen := length_of_ofInstructions h
  obtain ⟨words, hwords, hkept⟩ := assembleFrom_emitted 1 hemit
  obtain rfl : words = f := by
    unfold ofInstructions at h
    split at h
    · exact absurd h (by simp)
    · rw [assemble, hwords] at h
      exact Except.ok.inj h
  have hrestores : ∀ w ∈ words, Restores w := by
    intro w hw
    obtain ⟨i, hi, hiw⟩ := mem_of_assembleFrom hwords w hw
    exact restores_emitted (hemit i hi) hiw
  refine ⟨if_pos (isUnderstood_of_kept hkept), ?_⟩
  rw [ofInstructions, if_neg (by rw [instructions, List.length_map]; omega), assemble, instructions,
    assembleFrom_disassemble 1 hrestores]

/-- A filter in either form is made from emitted instructions. -/
theorem Emitter.isEmitted_of_emit {e : Emitter} {p : Allowlist} {f : Filter}
    (h : e.emit p = .ok f) : ∃ program, (∀ i ∈ program, i.isEmitted = true) ∧
      Filter.ofInstructions program = .ok f := by
  cases e with
  | linear => exact ⟨_, Emit.isEmitted_linear p, ofProgram_eq_ok h⟩
  | grouped =>
    obtain ⟨-, -, numbers, -, hf⟩ := emitGrouped_eq_ok h
    exact ⟨_, Emit.isEmitted_grouped _ _ _ numbers, ofProgram_eq_ok hf⟩

/-- Whatever calls built an allowlist, and in whichever form it is emitted, the filter can be taken
    apart into as many instructions as it has words, and these make the same filter again. -/
theorem Emitter.ofInstructions_of_emit {e : Emitter} {a : Arch} {calls : List (Int × Bytes)}
    {f : Filter} (h : e.emit ((Allowlist.empty a).addAll calls) = .ok f) :
    ∃ program, f.disassemble? = some program ∧ program.length = f.length ∧
      Filter.ofInstructions program = .ok f := by
  obtain ⟨program, hemit, hprogram⟩ := isEmitted_of_emit h
  obtain ⟨hshown, hagain⟩ := Filter.ofInstructions_disassemble? hemit hprogram
  exact ⟨f.instructions, hshown, List.length_map _, hagain⟩

/-- An allowlist for the host with two rules. -/
def twoRules : Allowlist :=
  (Allowlist.empty (.ofPlatform Arch.host .x8664)).addAll [(0, utf8 "read"), (1, utf8 "write")]

/-- Its filter in the grouped form. -/
def twoRulesFilter : Filter :=
  [⟨0x20, 0, 0, 4⟩, ⟨0x15, 0, 5, 0xc000003e⟩, ⟨0x20, 0, 0, 0⟩, ⟨0x35, 0, 1, 0x40000000⟩,
    ⟨0x06, 0, 0, 0x00050026⟩, ⟨0x15, 2, 0, 0⟩, ⟨0x15, 1, 0, 1⟩, ⟨0x06, 0, 0, 0x80000000⟩,
    ⟨0x06, 0, 0, 0x7fff0000⟩]

theorem Emitter.ofInstructions_of_emit_twoRules :
    Emitter.grouped.emit twoRules = .ok twoRulesFilter ∧
    ∃ program, twoRulesFilter.disassemble? = some program ∧ program.length = 9 ∧
      program[3]? = some (.jumpIf .less 0x40000000 1 0) ∧
      Filter.ofInstructions program = .ok twoRulesFilter := by
  have hemit : Emitter.grouped.emit twoRules = .ok twoRulesFilter := by decide +kernel
  have hfourth : twoRulesFilter.instructions[3]? = some (.jumpIf .less 0x40000000 1 0) := by
    decide +kernel
  obtain ⟨program, hshown, hlen, hagain⟩ := ofInstructions_of_emit hemit
  have hprogram : program = twoRulesFilter.instructions := by
    have hsome : twoRulesFilter.disassemble? = some twoRulesFilter.instructions := by
      decide +kernel
    exact Option.some.inj (hshown.symm.trans hsome)
  exact ⟨hemit, program, hshown, hlen, hprogram ▸ hfourth, hagain⟩

end SyscallFilter
