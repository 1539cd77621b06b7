import SyscallFilter.Emit.Emitter
import SyscallFilter.Proofs.Building
import SyscallFilter.Proofs.Execution
import SyscallFilter.Proofs.Storage

/-! The verdicts of the linear form. Each rule either answers or hands on to the next one, so the
    whole chain allows a call exactly when one of its constants is the call's number; in front of it
    stand the check of the architecture and, where it is needed, the check of the x32 bit. Whatever
    calls built it, an allowlist can be emitted in this form. -/

namespace SyscallFilter.Emit

open Bpf

/-! ### Running the form -/

section Chain

variable {record : Bytes} {r : Registers}

theorem exec_rule (index : Nat) (rule : Rule) (rest : List Instruction) :
    exec record index 0 r (ruleInstructions rule ++ rest) =
      if r.a = .ofNat rule.number then .ok rule.action.verdict
      else exec record (index + 2) 0 r rest := by
  simp only [ruleInstructions, List.cons_append, List.nil_append, exec_jumpIf, Test.holds,
    beq_iff_eq]
  split
  · rfl
  · rfl

/-- The chain allows the numbers of its rules. -/
theorem exec_rules {deny : UInt32} : ∀ (index : Nat) {rules : List Rule},
    (∀ rule ∈ rules, rule.action = .allow) →
    exec record index 0 r (rules.flatMap ruleInstructions ++ [.retConstant deny]) =
      .ok (if r.a ∈ (rules.map (·.number)).map UInt32.ofNat then Verdict.allow else deny)
  | index, [], _ => rfl
  | index, rule :: rules, h => by
    have hrule : rule.action.verdict = Verdict.allow := by
      rw [h rule List.mem_cons_self]; rfl
    rw [List.flatMap_cons, List.append_assoc, exec_rule,
      exec_rules (index + 2) (fun s hs => h s (List.mem_cons_of_mem rule hs)), hrule]
    by_cases ha : r.a = .ofNat rule.number
    · rw [if_pos ha, if_pos (by simp [ha])]
    · rw [if_neg ha]
      simp only [List.map_cons, List.mem_cons, ha, false_or]

theorem exec_x32 (p : Allowlist) (index : Nat) (rest : List Instruction) :
    exec record index 0 r (x32Instructions p ++ rest) =
      if p.arch.refusesX32 = true ∧ x32Bit ≤ r.a then .ok p.fallback.verdict
      else exec record (index + (x32Instructions p).length) 0 r rest := by
  unfold x32Instructions
  by_cases hx : p.arch.refusesX32 = true
  · simp only [hx, if_true, true_and, List.cons_append, List.nil_append, exec_jumpIf, Test.holds,
      decide_eq_true_eq]
    split
    · rfl
    · rfl
  · simp [hx]

end Chain

/-- The verdict of the linear form on a call. -/
def linearVerdict (p : Allowlist) (c : Call) : UInt32 :=
  if c.arch ≠ p.arch.auditId then Verdict.killProcess
  else if p.arch.refusesX32 = true ∧ x32Bit ≤ c.number.toUInt32 then Verdict.killProcess
  else if c.number.toUInt32 ∈ p.numbers.map UInt32.ofNat then Verdict.allow
  else Verdict.killProcess

theorem run_linear {p : Allowlist} (h : p.Sound) (c : Call) :
    run (linear p) c.record = .ok (linearVerdict p c) := by
  have hdeny := h.verdict_fallback
  unfold run linear linearVerdict
  simp only [List.append_assoc, List.cons_append, List.nil_append]
  rw [exec_load (fetch?_arch c), exec_jumpIf]
  by_cases ha : c.arch = p.arch.auditId
  · rw [if_pos (by simp [Test.holds, ha]), if_neg (by simp [ha])]
    change exec c.record 3 0 _ _ = _
    rw [exec_load (fetch?_number c), exec_x32, exec_rules _ h.allows, hdeny]
    split
    · rfl
    · rfl
  · rw [if_neg (by simp [Test.holds, ha]), if_pos ha, ← hdeny]
    rfl

/-- The linear form allows a call that gets past its checks and has the constant of a rule. -/
theorem linearVerdict_eq_allow {p : Allowlist} {c : Call} :
    linearVerdict p c = Verdict.allow ↔ c.arch = p.arch.auditId ∧
      ¬ (p.arch.refusesX32 = true ∧ x32Bit ≤ c.number.toUInt32) ∧
      ∃ r ∈ p.rules, UInt32.ofNat r.number = c.number.toUInt32 := by
  have hkill : Verdict.killProcess ≠ Verdict.allow := by decide
  unfold linearVerdict
  by_cases ha : c.arch = p.arch.auditId
  · rw [if_neg (not_not_intro ha)]
    by_cases hx : p.arch.refusesX32 = true ∧ x32Bit ≤ c.number.toUInt32
    · rw [if_pos hx]
      exact iff_of_false hkill fun h => h.2.1 hx
    · rw [if_neg hx]
      simp [ha, hx, hkill, Allowlist.numbers]
  · rw [if_pos ha]
    exact iff_of_false hkill fun h => ha h.1

theorem linearVerdict_eq_kill {p : Allowlist} {c : Call} :
    linearVerdict p c = Verdict.killProcess ↔ linearVerdict p c ≠ Verdict.allow := by
  have hkill : Verdict.killProcess ≠ Verdict.allow := by decide
  unfold linearVerdict
  split
  · exact iff_of_true rfl hkill
  · split
    · exact iff_of_true rfl hkill
    · split
      · exact iff_of_false hkill.symm (not_not_intro rfl)
      · exact iff_of_true rfl hkill

/-- The number of a call is its word, read with a sign. -/
theorem toInt_eq_toNat_toUInt32 (number : Int32) : number.toInt =
    if number.toUInt32.toNat < 0x80000000 then (number.toUInt32.toNat : Int)
    else number.toUInt32.toNat - 0x100000000 := by
  have hint : number.toInt = if 2 * number.toUInt32.toNat < 2 ^ 32 then
      (number.toUInt32.toNat : Int) else number.toUInt32.toNat - 2 ^ 32 :=
    BitVec.toInt_eq_toNat_cond number.toBitVec
  rw [hint]
  split <;> split <;> omega

/-- The comparison of words compares numbers up to multiples of 2³². -/
theorem toUInt32_eq_ofNat_iff (n : Nat) (number : Int32) :
    number.toUInt32 = .ofNat n ↔ (n : Int) % 0x100000000 = number.toInt % 0x100000000 := by
  have hbound := number.toUInt32.toNat_lt
  rw [← UInt32.toNat_inj, UInt32.toNat_ofNat', toInt_eq_toNat_toUInt32]
  split <;> omega

/-- Below the x32 bit, the comparison of words compares numbers. -/
theorem toUInt32_eq_ofNat {n : Nat} (hn : n < 0x40000000) (number : Int32) :
    (number.toUInt32 = .ofNat n ↔ (n : Int) = number.toInt) ∧
      (x32Bit ≤ number.toUInt32 → (n : Int) ≠ number.toInt) := by
  have hbound := number.toUInt32.toNat_lt
  rw [toUInt32_eq_ofNat_iff, UInt32.le_iff_toNat_le, toInt_eq_toNat_toUInt32]
  simp only [x32Bit, UInt32.reduceToNat]
  split <;> omega

/-- A number of a table, as a call has it. -/
theorem toInt_ofInt_of_small {n : Nat} (hn : n < 0x40000000) :
    (Int32.ofInt n).toInt = n ∧ (Int32.ofInt n).toUInt32 < x32Bit := by
  have hint : (Int32.ofInt n).toInt = n := Int32.toInt_ofInt_of_le (by omega) (by omega)
  refine ⟨hint, UInt32.not_le.mp fun hx => ?_⟩
  exact (toUInt32_eq_ofNat hn (Int32.ofInt n)).2 hx hint.symm

/-- Where no rule has the x32 bit, the calls with the numbers of rules are allowed. -/
theorem linearVerdict_of_small {p : Allowlist} (h : ∀ n ∈ p.numbers, n < 0x40000000) (c : Call) :
    linearVerdict p c =
      if c.arch = p.arch.auditId ∧ ∃ n ∈ p.numbers, (n : Int) = c.number.toInt then Verdict.allow
      else Verdict.killProcess := by
  have hmem : c.number.toUInt32 ∈ p.numbers.map UInt32.ofNat ↔
      ∃ n ∈ p.numbers, (n : Int) = c.number.toInt := by
    rw [List.mem_map]
    refine exists_congr fun n => and_congr_right fun hn => ?_
    rw [eq_comm, (toUInt32_eq_ofNat (h n hn) c.number).1]
  unfold linearVerdict
  by_cases ha : c.arch = p.arch.auditId
  · rw [if_neg (by simp [ha])]
    by_cases hx : p.arch.refusesX32 = true ∧ x32Bit ≤ c.number.toUInt32
    · rw [if_pos hx, if_neg]
      rintro ⟨-, n, hn, he⟩
      exact (toUInt32_eq_ofNat (h n hn) c.number).2 hx.2 he
    · rw [if_neg hx]
      simp only [hmem, ha, true_and]
  · rw [if_pos ha, if_neg fun hboth => ha hboth.1]

/-! ### Emitting the form -/

theorem isEmitted_linear (p : Allowlist) : ∀ i ∈ linear p, i.isEmitted = true := by
  intro i hi
  simp only [linear, x32Instructions, ruleInstructions, List.mem_append, List.mem_cons,
    List.mem_flatMap, List.not_mem_nil, or_false] at hi
  rcases hi with ((((rfl | rfl | rfl | rfl) | hx) | ⟨rule, -, rfl | rfl⟩) | rfl)
  · rfl
  · rfl
  · rfl
  · rfl
  · split at hx
    · simp only [List.mem_cons, List.not_mem_nil, or_false] at hx
      rcases hx with rfl | rfl <;> rfl
    · exact absurd hx List.not_mem_nil
  · rfl
  · rfl
  · rfl

theorem length_linear (p : Allowlist) : (linear p).length =
    5 + 2 * p.size + (if p.arch.refusesX32 then 2 else 0) := by
  have hrules : (p.rules.flatMap ruleInstructions).length = 2 * p.size := by
    rw [Allowlist.size]
    induction p.rules with
    | nil => rfl
    | cons rule rules ih =>
      rw [List.flatMap_cons, List.length_append, ih, List.length_cons]
      simp only [ruleInstructions, List.length_cons, List.length_nil]
      omega
  simp only [linear, x32Instructions, List.length_append, hrules, List.length_cons,
    List.length_nil]
  split <;> simp <;> omega

/-- The bound on the rules leaves room for the instructions around them. -/
theorem length_linear_le {p : Allowlist} (h : p.Sound) :
    (linear p).length ≤ Filter.maxInstructions := by
  have hb := h.bounded
  rw [length_linear]
  simp only [Filter.maxInstructions, Allowlist.maxRules_eq] at hb ⊢
  split <;> omega

theorem loads_rules {rest : List Instruction} (hne : 0 < rest.length) (h : Loads rest) :
    ∀ rules : List Rule, Loads (rules.flatMap ruleInstructions ++ rest)
  | [] => h
  | rule :: rules => by
    rw [List.flatMap_cons, List.append_assoc]
    refine loads_jumpIf (loads_ret (loads_rules hne h rules)) (Nat.zero_lt_succ _) ?_
    rw [List.length_cons, List.length_append]
    exact Nat.succ_lt_succ (Nat.add_pos_right _ hne)

theorem loads_x32 {p : Allowlist} {rest : List Instruction} (hne : 0 < rest.length)
    (h : Loads rest) : Loads (x32Instructions p ++ rest) := by
  unfold x32Instructions
  split
  · exact loads_jumpIf (loads_ret h) (Nat.zero_lt_succ _) (Nat.succ_lt_succ hne)
  · exact h

theorem loadFault?_linear (p : Allowlist) : loadFault? (linear p) = none := by
  have hret : Loads [.retConstant p.fallback.verdict] := rfl
  have hrules : Loads (p.rules.flatMap ruleInstructions ++ _) := loads_rules (by simp) hret p.rules
  have hx : Loads (x32Instructions p ++ _) := loads_x32 (by simp) hrules
  refine loadFault?_eq_none.mpr ⟨?_, ?_⟩
  · rw [linear, List.getLast?_concat]
    rfl
  · rw [linear, List.append_assoc, List.append_assoc]
    refine loads_load (loads_jumpIf (loads_ret (loads_load hx)) ?_ ?_)
    · simp
    · simp

/-- Whatever calls built it, an allowlist is emitted in the linear form and gives its verdicts. -/
theorem emit_linear {p : Allowlist} (h : p.Sound) :
    ∃ f, Emitter.linear.emit p = .ok f ∧ f.length = (linear p).length ∧
      ∀ c, f.evaluate c = .ok (linearVerdict p c) := by
  obtain ⟨f, hf, hsize, heval⟩ := Filter.ofInstructions_emitted (length_linear_le h)
    (isEmitted_linear p) (loadFault?_linear p)
  refine ⟨f, ?_, hsize, fun c => heval c _ (run_linear h c)⟩
  rw [Emitter.emit, Emitter.ofProgram, hf]

end SyscallFilter.Emit
