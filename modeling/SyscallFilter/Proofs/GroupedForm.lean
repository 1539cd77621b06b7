import SyscallFilter.Proofs.LinearForm
import SyscallFilter.Proofs.Tables
import SyscallFilter.Resolver

/-! The verdicts of the grouped form. A comparison that holds skips over what is left of its block
    to the block's return, and one that does not goes on to the next; the last block has two
    returns, and the check of the architecture skips to the first of them from the front. However
    many blocks there are, the group allows a call exactly when one of its constants is the call's
    number.

        comparisons ──▶ full block ──▶ group ──▶ grouped form

    The constants are the numbers of the rules' names in the target's table, whatever numbers the
    rules have. For the host, an allowlist whose rules stand under their own names has the same
    numbers in both forms, so that the two filters allow the same calls. They differ on the calls of
    the x32 variant alone, which one of them kills and the other refuses. -/

namespace SyscallFilter.Emit

open Bpf

/-! ### Running the form -/

theorem length_comparisons (gap : Nat) : ∀ numbers : List Nat,
    (comparisons gap numbers).length = numbers.length
  | [] => rfl
  | _ :: rest => congrArg (· + 1) (length_comparisons gap rest)

/-- A block ends with its return. -/
theorem fullBlock_eq (allow : UInt32) : ∀ numbers : List Nat,
    ∃ front, fullBlock allow numbers = front ++ [.retConstant allow] ∧
      front.length = numbers.length
  | [] => ⟨[], rfl, rfl⟩
  | [n] => ⟨[.jumpIf .equal (.ofNat n) 0 1], rfl, rfl⟩
  | n :: m :: rest => by
    obtain ⟨front, hfront, hlen⟩ := fullBlock_eq allow (m :: rest)
    refine ⟨.jumpIf .equal (.ofNat n) (.ofNat (rest.length + 1)) 0 :: front, ?_, ?_⟩
    · rw [fullBlock, hfront, List.cons_append]
    · exact congrArg (· + 1) hlen

theorem length_fullBlock (allow : UInt32) (numbers : List Nat) :
    (fullBlock allow numbers).length = numbers.length + 1 := by
  obtain ⟨front, hfront, hlen⟩ := fullBlock_eq allow numbers
  rw [hfront, List.length_append, hlen, List.length_singleton]

/-- A group ends with the two returns of its last block. -/
theorem group_eq (allow deny : UInt32) (numbers : List Nat) :
    ∃ front, group allow deny numbers = front ++ [.retConstant deny, .retConstant allow] := by
  fun_induction group allow deny numbers with
  | case1 numbers h ih =>
    obtain ⟨front, hfront⟩ := ih
    exact ⟨fullBlock allow (numbers.take reach) ++ front, by rw [hfront, List.append_assoc]⟩
  | case2 numbers h => exact ⟨comparisons 1 numbers, rfl⟩

section Group

variable {record : Bytes} {r : Registers}

/-- Comparisons with a gap that a jump can reach go on behind the gap where one of them holds. -/
theorem exec_comparisons {gap : Nat} {tail : List Instruction} :
    ∀ (index : Nat) {numbers : List Nat}, numbers.length + gap ≤ 256 →
    exec record index 0 r (comparisons gap numbers ++ tail) =
      exec record (index + numbers.length) (if r.a ∈ numbers.map UInt32.ofNat then gap else 0) r
        tail
  | index, [], _ => rfl
  | index, n :: rest, h => by
    rw [List.length_cons] at h
    have hskip : (UInt8.ofNat (rest.length + gap)).toNat = rest.length + gap :=
      UInt8.toNat_ofNat_of_lt' (show _ < 256 by omega)
    rw [comparisons, List.cons_append, exec_jumpIf, hskip]
    by_cases ha : r.a = .ofNat n
    · rw [if_pos (by simp [Test.holds, ha]), ← length_comparisons gap rest, exec_skip,
        length_comparisons, if_pos (by simp [ha])]
      congr 1
      rw [List.length_cons]
      omega
    · rw [if_neg (by simp [Test.holds, ha])]
      change exec record (index + 1) 0 r _ = _
      rw [exec_comparisons (index + 1) (by omega)]
      simp only [List.map_cons, List.mem_cons, ha, false_or]
      congr 1
      rw [List.length_cons]
      omega

/-- A block allows its numbers and hands on to what follows. -/
theorem exec_fullBlock {allow : UInt32} {tail : List Instruction} :
    ∀ (index : Nat) {numbers : List Nat}, numbers ≠ [] → numbers.length ≤ reach →
    exec record index 0 r (fullBlock allow numbers ++ tail) =
      if r.a ∈ numbers.map UInt32.ofNat then .ok allow
      else exec record (index + numbers.length + 1) 0 r tail
  | _, [], h, _ => absurd rfl h
  | index, [n], _, _ => by
    simp only [fullBlock, List.cons_append, List.nil_append, exec_jumpIf, Test.holds, beq_iff_eq,
      List.map_cons, List.map_nil, List.mem_singleton]
    split
    · rfl
    · rfl
  | index, n :: m :: rest, _, h => by
    simp only [reach, List.length_cons] at h
    have hskip : (UInt8.ofNat (rest.length + 1)).toNat = rest.length + 1 :=
      UInt8.toNat_ofNat_of_lt' (show _ < 256 by omega)
    obtain ⟨front, hfront, hlen⟩ := fullBlock_eq allow (m :: rest)
    rw [List.length_cons] at hlen
    rw [fullBlock, List.cons_append, exec_jumpIf, hskip]
    by_cases ha : r.a = .ofNat n
    · rw [if_pos (by simp [Test.holds, ha]), if_pos (by simp [ha]), hfront, List.append_assoc,
        ← hlen]
      exact (exec_skip front (index + 1) 0).trans rfl
    · rw [if_neg (by simp [Test.holds, ha])]
      change exec record (index + 1) 0 r _ = _
      have hindex : index + 1 + (m :: rest).length + 1 = index + (n :: m :: rest).length + 1 := by
        simp only [List.length_cons]
        omega
      rw [exec_fullBlock (index + 1) (List.cons_ne_nil m rest)
        (by simp only [reach, List.length_cons]; omega), hindex]
      simp only [List.map_cons, List.mem_cons, ha, false_or]

/-- A group allows its numbers and denies all others. -/
theorem exec_group (allow deny : UInt32) (numbers : List Nat) (index : Nat) :
    exec record index 0 r (group allow deny numbers) =
      .ok (if r.a ∈ numbers.map UInt32.ofNat then allow else deny) := by
  fun_induction group allow deny numbers generalizing index with
  | case1 numbers h ih =>
    have hne : numbers.take reach ≠ [] := by
      rw [← List.length_pos_iff, List.length_take]
      simp only [reach] at h ⊢
      omega
    have hsplit : numbers.map UInt32.ofNat =
        (numbers.take reach).map .ofNat ++ (numbers.drop reach).map .ofNat := by
      rw [← List.map_append, List.take_append_drop]
    rw [exec_fullBlock index hne (List.length_take_le _ _), ih]
    simp only [hsplit, List.mem_append]
    by_cases hmem : r.a ∈ (numbers.take reach).map UInt32.ofNat
    · rw [if_pos hmem, if_pos (Or.inl hmem)]
    · simp only [hmem, if_false, false_or]
  | case2 numbers h =>
    rw [exec_comparisons index (by simp only [reach] at h; omega)]
    split
    · rfl
    · rfl

end Group

theorem length_group (allow deny : UInt32) (numbers : List Nat) :
    (group allow deny numbers).length ≤ 2 * numbers.length + 2 := by
  fun_induction group allow deny numbers with
  | case1 numbers h ih =>
    rw [List.length_append, length_fullBlock, List.length_take]
    rw [List.length_drop] at ih
    simp only [reach] at h ih ⊢
    omega
  | case2 numbers h =>
    rw [List.length_append, length_comparisons, List.length_cons, List.length_singleton]
    omega

/-- The verdict on a call of the grouped form that allows the given numbers. -/
def groupVerdict (auditId : UInt32) (numbers : List Nat) (c : Call) : UInt32 :=
  if c.arch ≠ auditId then Verdict.killProcess
  else if x32Bit ≤ c.number.toUInt32 then Verdict.noSuchCall
  else if c.number.toUInt32 ∈ numbers.map UInt32.ofNat then Verdict.allow
  else Verdict.killProcess

/-- The verdict on a call of the grouped form of an allowlist. -/
def groupedVerdict (p : Allowlist) (c : Call) : UInt32 :=
  groupVerdict p.arch.auditId p.numbers c

/-- The check of the architecture goes on with the next instruction, or passes over as many as it is
    told to, in either of its shapes. -/
theorem exec_archCheck {record : Bytes} {r : Registers} {auditId : UInt32} {size index : Nat}
    (hsize : size + 1 < 2 ^ 32) (rest : List Instruction) :
    exec record index 0 r (archCheck auditId size ++ rest) =
      exec record (index + (archCheck auditId size).length)
        (if r.a = auditId then 0 else size + 1) r rest := by
  unfold archCheck
  split
  · next hshort =>
    simp only [reach] at hshort
    have hskip : (UInt8.ofNat (size + 1)).toNat = size + 1 :=
      UInt8.toNat_ofNat_of_lt' (show _ < 256 by omega)
    rw [List.cons_append, List.nil_append, exec_jumpIf, hskip]
    by_cases ha : r.a = auditId
    · simp [Test.holds, ha]
    · simp [Test.holds, ha]
  · have hskip : (UInt32.ofNat (size + 1)).toNat = size + 1 := UInt32.toNat_ofNat_of_lt' hsize
    rw [List.cons_append, List.cons_append, List.nil_append, exec_jumpIf]
    by_cases ha : r.a = auditId
    · rw [if_pos (by simp [Test.holds, ha]), if_pos ha]
      rfl
    · rw [if_neg (by simp [Test.holds, ha]), if_neg ha]
      change exec record (index + 1) 0 r _ = _
      rw [exec_jump, hskip]
      rfl

theorem run_grouped {numbers : List Nat} (hbound : numbers.length ≤ Allowlist.maxRules)
    (auditId : UInt32) (c : Call) :
    run (grouped auditId Action.allow.verdict Verdict.killProcess numbers) c.record =
      .ok (groupVerdict auditId numbers c) := by
  have hsize := length_group Action.allow.verdict Verdict.killProcess numbers
  obtain ⟨front, hfront⟩ := group_eq Action.allow.verdict Verdict.killProcess numbers
  unfold run grouped groupVerdict
  simp only [List.append_assoc, List.cons_append, List.nil_append]
  rw [exec_load (fetch?_arch c),
    exec_archCheck (by simp only [Allowlist.maxRules_eq] at hbound; omega)]
  by_cases ha : c.arch = auditId
  · rw [if_pos ha, if_neg (not_not_intro ha), exec_load (fetch?_number c), exec_jumpIf]
    by_cases hx : x32Bit ≤ c.number.toUInt32
    · rw [if_pos (by simpa [Test.holds] using hx), if_pos hx]
      rfl
    · rw [if_neg (by simpa [Test.holds] using hx), if_neg hx]
      exact exec_group _ _ numbers _
  · rw [if_neg ha, if_pos ha]
    -- What is passed over ends before the first of the two returns.
    have hpassed : (group Action.allow.verdict Verdict.killProcess numbers).length + 1 =
        ([Instruction.loadAbsolute Call.numberOffset .word,
          Instruction.jumpIf .greaterOrEqual x32Bit 0 1,
          Instruction.retConstant Verdict.noSuchCall] ++ front).length + 0 := by
      rw [hfront]
      simp only [List.length_append, List.length_cons, List.length_nil]
      omega
    rw [hpassed, hfront]
    exact exec_skip _ _ 0

/-! ### Emitting the form -/

theorem isEmitted_comparisons {gap : Nat} : ∀ {numbers : List Nat},
    ∀ i ∈ comparisons gap numbers, i.isEmitted = true
  | [], _, hi => absurd hi List.not_mem_nil
  | _ :: _, i, hi => by
    rcases List.mem_cons.mp hi with rfl | hi
    · rfl
    · exact isEmitted_comparisons i hi

theorem isEmitted_fullBlock {allow : UInt32} : ∀ {numbers : List Nat},
    ∀ i ∈ fullBlock allow numbers, i.isEmitted = true
  | [], i, hi => by rw [List.mem_singleton.mp hi]; rfl
  | [n], i, hi => by
    simp only [fullBlock, List.mem_cons, List.not_mem_nil, or_false] at hi
    rcases hi with rfl | rfl
    · rfl
    · rfl
  | n :: m :: rest, i, hi => by
    rcases List.mem_cons.mp hi with rfl | hi
    · rfl
    · exact isEmitted_fullBlock i hi

theorem isEmitted_group (allow deny : UInt32) (numbers : List Nat) :
    ∀ i ∈ group allow deny numbers, i.isEmitted = true := by
  fun_induction group allow deny numbers with
  | case1 numbers h ih =>
    intro i hi
    rcases List.mem_append.mp hi with hi | hi
    · exact isEmitted_fullBlock i hi
    · exact ih i hi
  | case2 numbers h =>
    intro i hi
    simp only [List.mem_append, List.mem_cons, List.not_mem_nil, or_false] at hi
    rcases hi with hi | rfl | rfl
    · exact isEmitted_comparisons i hi
    · rfl
    · rfl

theorem isEmitted_grouped (auditId allow deny : UInt32) (numbers : List Nat) :
    ∀ i ∈ grouped auditId allow deny numbers, i.isEmitted = true := by
  intro i hi
  simp only [grouped, archCheck, List.mem_append, List.mem_cons, List.not_mem_nil,
    or_false] at hi
  rcases hi with ((rfl | hi) | (rfl | rfl | rfl)) | hi
  · rfl
  · split at hi
    · rw [List.mem_singleton.mp hi]
      rfl
    · simp only [List.mem_cons, List.not_mem_nil, or_false] at hi
      rcases hi with rfl | rfl
      · rfl
      · rfl
  · rfl
  · rfl
  · rfl
  · exact isEmitted_group allow deny numbers i hi

section Loads

variable {tail : List Instruction} (h : Loads tail)
include h

theorem loads_comparisons {gap : Nat} (hgap : gap < tail.length) :
    ∀ numbers : List Nat, Loads (comparisons gap numbers ++ tail)
  | [] => h
  | n :: rest => by
    have hlen : (comparisons gap rest ++ tail).length = rest.length + tail.length := by
      rw [List.length_append, length_comparisons]
    have hle : (UInt8.ofNat (rest.length + gap)).toNat ≤ rest.length + gap := Nat.mod_le _ _
    refine loads_jumpIf (loads_comparisons hgap rest) ?_ ?_
    · omega
    · rw [hlen]
      exact Nat.add_pos_right _ (Nat.lt_of_le_of_lt (Nat.zero_le gap) hgap)

theorem loads_fullBlock {allow : UInt32} (hne : 0 < tail.length) :
    ∀ numbers : List Nat, Loads (fullBlock allow numbers ++ tail)
  | [] => loads_ret h
  | [n] => loads_jumpIf (loads_ret h) (Nat.zero_lt_succ _) (Nat.succ_lt_succ hne)
  | n :: m :: rest => by
    have hlen : (fullBlock allow (m :: rest) ++ tail).length = rest.length + 2 + tail.length := by
      rw [List.length_append, length_fullBlock, List.length_cons]
    have hle : (UInt8.ofNat (rest.length + 1)).toNat ≤ rest.length + 1 := Nat.mod_le _ _
    refine loads_jumpIf (loads_fullBlock hne (m :: rest)) ?_ ?_
    · omega
    · rw [hlen]
      exact Nat.add_pos_right _ hne

end Loads

theorem loads_group (allow deny : UInt32) (numbers : List Nat) :
    Loads (group allow deny numbers) := by
  fun_induction group allow deny numbers with
  | case1 numbers h ih =>
    obtain ⟨front, hfront⟩ := group_eq allow deny (numbers.drop reach)
    exact loads_fullBlock ih (by simp [hfront]) _
  | case2 numbers h =>
    have htail : Loads [.retConstant deny, .retConstant allow] := rfl
    exact loads_comparisons htail Nat.one_lt_two numbers

theorem loads_archCheck {auditId : UInt32} {size : Nat} {rest : List Instruction}
    (h : Loads rest) (hsize : size + 1 < rest.length) : Loads (archCheck auditId size ++ rest) := by
  unfold archCheck
  split
  · have hle : (UInt8.ofNat (size + 1)).toNat ≤ size + 1 := Nat.mod_le _ _
    exact loads_jumpIf h (by omega) (by simp; omega)
  · have hle : (UInt32.ofNat (size + 1)).toNat ≤ size + 1 := Nat.mod_le _ _
    refine loads_jumpIf (loads_jump h (by omega)) ?_ (Nat.zero_lt_succ _)
    exact Nat.succ_lt_succ (by omega)

theorem loadFault?_grouped (auditId allow deny : UInt32) (numbers : List Nat) :
    loadFault? (grouped auditId allow deny numbers) = none := by
  obtain ⟨front, hfront⟩ := group_eq allow deny numbers
  refine loadFault?_eq_none.mpr ⟨?_, ?_⟩
  · unfold grouped
    simp only [hfront, List.getLast?_append]
    rfl
  · unfold grouped
    simp only [List.append_assoc, List.cons_append, List.nil_append]
    have hgroup := loads_group allow deny numbers
    refine loads_load (loads_archCheck (loads_load (loads_jumpIf (loads_ret hgroup) ?_ ?_)) ?_)
    · simp
    · simp [hfront]
    · simp

theorem length_grouped (auditId allow deny : UInt32) (numbers : List Nat) :
    (grouped auditId allow deny numbers).length ≤ 2 * numbers.length + 8 := by
  have hgroup := length_group allow deny numbers
  have hcheck : (archCheck auditId (group allow deny numbers).length).length ≤ 2 := by
    unfold archCheck
    split <;> simp
  simp only [grouped, List.length_append, List.length_cons, List.length_nil]
  omega

/-- Rules that stand under their own names are grouped by their own numbers. -/
theorem groupNumbers_of_named {a : Arch} : ∀ {taken : List Nat} {rules : List Rule},
    (∀ rule ∈ rules, a.table.numberOf? rule.name = some rule.number) →
    (rules.map (·.number)).Nodup → (∀ rule ∈ rules, rule.number ∉ taken) →
    groupNumbers a taken (rules.map (·.name)) = (rules.map (·.number), [])
  | _, [], _, _, _ => rfl
  | taken, rule :: rules, hnamed, hdistinct, hnew => by
    obtain ⟨hnot, hdistinct⟩ := List.nodup_cons.mp hdistinct
    have hnew' : ∀ other ∈ rules, other.number ∉ rule.number :: taken := by
      intro other hother hmem
      rcases List.mem_cons.mp hmem with he | hmem
      · exact hnot (List.mem_map.mpr ⟨other, hother, he⟩)
      · exact hnew other (List.mem_cons_of_mem rule hother) hmem
    have hrest : groupNumbers a (rule.number :: taken) (rules.map (·.name)) =
        (rules.map (·.number), []) :=
      groupNumbers_of_named (fun other hother => hnamed other (List.mem_cons_of_mem rule hother))
        hdistinct hnew'
    simp only [List.map_cons, groupNumbers, hnamed rule List.mem_cons_self,
      if_neg (hnew rule List.mem_cons_self), hrest]

/-- Names without a problem are grouped by the numbers that they have in the table. -/
theorem numberOf?_of_groupNumbers {a : Arch} : ∀ {taken : List Nat} {names : List Bytes}
    {numbers : List Nat}, groupNumbers a taken names = (numbers, []) →
    names.map a.table.numberOf? = numbers.map some
  | _, [], _, h => by
    obtain ⟨rfl, -⟩ := Prod.mk.inj h
    rfl
  | taken, name :: rest, _, h => by
    cases hn : a.table.numberOf? name with
    | none => simp [groupNumbers, hn] at h
    | some n =>
      by_cases htaken : n ∈ taken
      · simp [groupNumbers, hn, htaken] at h
      · simp only [groupNumbers, hn, if_neg htaken] at h
        obtain ⟨rfl, hproblems⟩ := Prod.mk.inj h
        have hrest := numberOf?_of_groupNumbers (Prod.ext rfl hproblems :
          groupNumbers a (n :: taken) rest = ((groupNumbers a (n :: taken) rest).1, []))
        rw [List.map_cons, List.map_cons, hn, hrest]

/-- An allowlist for the host with some rules, none with a problem in its name, is emitted in the
    grouped form of the numbers that the names have in the table. -/
theorem emit_grouped_of_numbers {p : Allowlist} (h : p.Sound) (hnative : p.arch.isNative = true)
    (hne : p.rules ≠ []) {numbers : List Nat}
    (hnumbers : groupNumbers p.arch [] p.names = (numbers, [])) :
    ∃ f, Emitter.grouped.emit p = .ok f ∧
      ∀ c, f.evaluate c = .ok (groupVerdict p.arch.auditId numbers c) := by
  have hbound : numbers.length ≤ Allowlist.maxRules := by
    have hsame := congrArg List.length (numberOf?_of_groupNumbers hnumbers)
    rw [List.length_map, List.length_map, Allowlist.names, List.length_map] at hsame
    exact hsame ▸ h.bounded
  have hlen : (grouped p.arch.auditId Action.allow.verdict p.fallback.verdict numbers).length ≤
      Filter.maxInstructions := by
    have hgrouped := length_grouped p.arch.auditId Action.allow.verdict p.fallback.verdict numbers
    simp only [Allowlist.maxRules_eq, Filter.maxInstructions] at hbound ⊢
    omega
  obtain ⟨f, hf, -, heval⟩ := Filter.ofInstructions_emitted hlen (isEmitted_grouped _ _ _ _)
    (loadFault?_grouped _ _ _ _)
  refine ⟨f, ?_, fun c => heval c _ (h.verdict_fallback ▸ run_grouped hbound _ c)⟩
  have hsome : p.rules.isEmpty = false := List.isEmpty_eq_false_iff.mpr hne
  simp only [Emitter.emit, Emitter.emitGrouped, hnative, hsome, hnumbers, Emitter.ofProgram, hf,
    Bool.not_true, Bool.false_eq_true, if_false]

/-- An allowlist for the host, with some rules that all stand under their own names, is emitted in
    the grouped form and gives its verdicts. -/
theorem emit_grouped {p : Allowlist} (h : p.Sound) (hnative : p.arch.isNative = true)
    (hne : p.rules ≠ [])
    (hnamed : ∀ rule ∈ p.rules, p.arch.table.numberOf? rule.name = some rule.number) :
    ∃ f, Emitter.grouped.emit p = .ok f ∧ ∀ c, f.evaluate c = .ok (groupedVerdict p c) := by
  have hnumbers : groupNumbers p.arch [] p.names = (p.numbers, []) :=
    groupNumbers_of_named hnamed h.distinct fun _ _ => List.not_mem_nil
  exact emit_grouped_of_numbers h hnative hne hnumbers

/-! ### The two forms -/

theorem groupedVerdict_of_small {call : Call} (h : call.number.toUInt32 < x32Bit)
    (p : Allowlist) : groupedVerdict p call = linearVerdict p call := by
  have hx : ¬ x32Bit ≤ call.number.toUInt32 := UInt32.not_le.mpr h
  simp only [groupedVerdict, groupVerdict, linearVerdict, hx, and_false, if_false]

/-- A rule that was added under the number of its name stands under its own name. -/
theorem named_of_resolve {target : Arch} {calls : List (Int × Bytes)}
    (hcalls : ∀ call ∈ calls, call.1 = (target.resolve call.2).number) :
    ∀ rule ∈ ((Allowlist.empty target).addAll calls).rules,
      target.table.numberOf? rule.name = some rule.number := by
  intro rule hrule
  rcases Allowlist.mem_rules_addAll hrule with hold | hcall
  · exact absurd hold List.not_mem_nil
  · have hnumber : (rule.number : Int) = (target.resolve rule.name).number := hcalls _ hcall
    unfold Arch.resolve Arch.number at hnumber
    cases hn : target.table.numberOf? rule.name with
    | none =>
      simp only [hn, Resolution.failed] at hnumber
      omega
    | some n =>
      simp only [hn] at hnumber
      exact congrArg some (Int.ofNat_inj.mp hnumber).symm

/-- A target that is the host refuses the calls of the x32 variant. -/
theorem refusesX32_of_native {name : Bytes} {target : Arch} (h : Arch.lookup name = .ok target)
    (hnative : target.isNative = true) : target.refusesX32 = true := by
  obtain ⟨p, -, rfl⟩ := Arch.lookup_eq_ok h
  exact decide_eq_true (beq_iff_eq.mp hnative)

/-- For the host, the two forms of an allowlist that was built by resolving names allow the same
    calls, and only on the calls of the x32 variant can they give different verdicts. -/
theorem emitters_agree {name : Bytes} {target : Arch} (hlookup : Arch.lookup name = .ok target)
    (hnative : target.isNative = true) (calls : List (Int × Bytes))
    (hcalls : ∀ call ∈ calls, call.1 = (target.resolve call.2).number)
    (hne : ((Allowlist.empty target).addAll calls).rules ≠ []) :
    ∃ f g, Emitter.linear.emit ((Allowlist.empty target).addAll calls) = .ok f ∧
      Emitter.grouped.emit ((Allowlist.empty target).addAll calls) = .ok g ∧
      ∀ c : Call, ∃ v w, f.evaluate c = .ok v ∧ g.evaluate c = .ok w ∧
        (v = Verdict.allow ↔ w = Verdict.allow) ∧
        (c.arch ≠ target.auditId ∨ c.number.toUInt32 < 0x40000000 → v = w) := by
  have hsound := (Allowlist.sound_empty target).addAll calls
  have harch : ((Allowlist.empty target).addAll calls).arch = target :=
    Allowlist.arch_addAll _ calls
  obtain ⟨f, hf, -, hfeval⟩ := emit_linear hsound
  obtain ⟨g, hg, hgeval⟩ := emit_grouped hsound (harch.symm ▸ hnative) hne
    (harch.symm ▸ named_of_resolve hcalls)
  refine ⟨f, g, hf, hg, fun c => ⟨_, _, hfeval c, hgeval c, ?_⟩⟩
  have hx32 := refusesX32_of_native hlookup hnative
  simp only [linearVerdict, groupedVerdict, groupVerdict, harch, hx32, true_and]
  by_cases ha : c.arch = target.auditId
  · by_cases hx : x32Bit ≤ c.number.toUInt32
    · -- One verdict kills and the other refuses; neither allows.
      rw [if_neg (not_not_intro ha), if_pos hx, if_neg (not_not_intro ha), if_pos hx]
      refine ⟨iff_of_false (by decide) (by decide), ?_⟩
      rintro (hne | hlt)
      · exact absurd ha hne
      · exact absurd hlt (UInt32.not_lt.mpr hx)
    · simp [ha, hx]
  · simp [ha]

/-- All calls of the host together take more than one block. -/
def hostCalls : List (Int × Bytes) := SyscallTable.x8664.map fun e => ((e.1 : Int), e.2)

theorem emitters_agree_hostCalls :
    reach < hostCalls.length ∧
    ∃ f g, Emitter.linear.emit ((Allowlist.empty (.ofPlatform Arch.host .x8664)).addAll hostCalls) =
        .ok f ∧
      Emitter.grouped.emit ((Allowlist.empty (.ofPlatform Arch.host .x8664)).addAll hostCalls) =
        .ok g ∧
      ∃ v, f.evaluate { number := 462, arch := 0xc000003e } = .ok v ∧
        g.evaluate { number := 462, arch := 0xc000003e } = .ok v := by
  have hcalls : ∀ call ∈ hostCalls,
      call.1 = ((Arch.ofPlatform Arch.host .x8664).resolve call.2).number := by
    intro call hcall
    obtain ⟨e, he, rfl⟩ := List.mem_map.mp hcall
    have hnumber := (SyscallTable.numberOf?_eq_some SyscallTable.wellFormed_x8664.distinct).mpr he
    simp only [Arch.resolve, Arch.number, Arch.ofPlatform, Platform.x8664, hnumber]
  have hread : ((0 : Int), utf8 "read") ∈ hostCalls := List.mem_map.mpr
    ⟨(0, utf8 "read"), List.mem_map.mpr ⟨(0, "read"), List.mem_cons_self, rfl⟩, rfl⟩
  have hpool : ∀ call ∈ hostCalls, ∃ n ∈ SyscallTable.x8664.numbers, call.1 = (n : Int) := by
    intro call hcall
    obtain ⟨e, he, rfl⟩ := List.mem_map.mp hcall
    exact ⟨e.1, List.mem_map_of_mem he, rfl⟩
  have hne : ((Allowlist.empty (.ofPlatform Arch.host .x8664)).addAll hostCalls).rules ≠ [] := by
    intro hnil
    have hzero := (Allowlist.mem_numbers_addAll
      (Allowlist.sound_empty (.ofPlatform Arch.host .x8664)) (List.nil_subset _)
      SyscallTable.wellFormed_x8664.bounded hpool 0).mpr (Or.inr ⟨utf8 "read", hread⟩)
    rw [Allowlist.numbers, hnil] at hzero
    exact absurd hzero List.not_mem_nil
  have harch : Arch.lookup [] = .ok (.ofPlatform Arch.host .x8664) :=
    Arch.lookup_host (by decide +kernel)
  obtain ⟨f, g, hf, hg, h⟩ := emitters_agree harch (beq_self_eq_true Arch.host) hostCalls hcalls hne
  obtain ⟨v, w, hv, hw, -, heq⟩ := h { number := 462, arch := 0xc000003e }
  obtain rfl := heq (Or.inr (by decide))
  exact ⟨by decide +kernel, f, g, hf, hg, v, hv, hw⟩

end SyscallFilter.Emit

namespace SyscallFilter.Emitter

open Bpf

/-! ### Filters of either form -/

theorem ofProgram_eq_ok {program : List Instruction} {f : Filter}
    (h : ofProgram program = .ok f) : Filter.ofInstructions program = .ok f := by
  unfold ofProgram at h
  split at h
  · next hf => rw [hf, Except.ok.inj h]
  · exact absurd h (by simp)

/-- What an allowlist that is emitted in the grouped form went through. -/
theorem emitGrouped_eq_ok {p : Allowlist} {f : Filter} (h : emitGrouped p = .ok f) :
    p.arch.isNative = true ∧ p.rules ≠ [] ∧ ∃ numbers,
      Emit.groupNumbers p.arch [] p.names = (numbers, []) ∧ ofProgram
        (Emit.grouped p.arch.auditId Action.allow.verdict p.fallback.verdict numbers) = .ok f := by
  unfold emitGrouped at h
  split at h
  · exact absurd h (by simp)
  · next hnative =>
    split at h
    · exact absurd h (by simp)
    · next hsome =>
      split at h
      · next numbers hnumbers =>
        exact ⟨by simpa using hnative, by simpa using hsome, numbers, hnumbers, h⟩
      · exact absurd h (by simp)

theorem length_of_emit {e : Emitter} {p : Allowlist} {f : Filter} (h : e.emit p = .ok f) :
    f.length ≤ Filter.maxInstructions := by
  cases e with
  | linear => exact Filter.length_of_ofInstructions (ofProgram_eq_ok h)
  | grouped =>
    obtain ⟨-, -, numbers, -, hf⟩ := emitGrouped_eq_ok h
    exact Filter.length_of_ofInstructions (ofProgram_eq_ok hf)

/-- Below the x32 bit, rules that stand under their own names give the same verdicts in either
    form. -/
theorem evaluate_of_emit {e : Emitter} {p : Allowlist} {f : Filter} (hsound : p.Sound)
    (hnamed : ∀ rule ∈ p.rules, p.arch.table.numberOf? rule.name = some rule.number)
    (h : e.emit p = .ok f) {call : Call} (hsmall : call.number.toUInt32 < Emit.x32Bit) :
    f.evaluate call = .ok (Emit.linearVerdict p call) := by
  cases e with
  | linear =>
    obtain ⟨g, hg, -, heval⟩ := Emit.emit_linear hsound
    obtain rfl := Except.ok.inj (hg.symm.trans h)
    exact heval call
  | grouped =>
    obtain ⟨hnative, hne, -⟩ := emitGrouped_eq_ok h
    obtain ⟨g, hg, heval⟩ := Emit.emit_grouped hsound hnative hne hnamed
    obtain rfl := Except.ok.inj (hg.symm.trans h)
    rw [heval, Emit.groupedVerdict_of_small hsmall]

end SyscallFilter.Emitter
