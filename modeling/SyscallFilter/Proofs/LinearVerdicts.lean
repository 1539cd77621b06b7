import SyscallFilter.Proofs.LinearForm
import SyscallFilter.Proofs.Tables

/-! Which calls the linear form allows, whatever calls built its allowlist.

    A rule compares 32 bits, and the numbers of rules and of calls are read from these bits in
    different ways. So the form allows a call when a number that was accepted is the call's number
    up to a multiple of 2³². Below 2³¹ the two are the same number, and no two rules share their
    bits; from there on a rule stands for the calls of another number.

    The calls of the x32 variant are told apart from those of x86-64 by a bit of their number, and
    refused where the target has the check for it. A target has it only under the names that lead to
    the host's own name as they are spelt; the family itself is found under other spellings too. -/

namespace SyscallFilter

namespace Emit

open Bpf

/-! ### Verdicts over runs -/

/-- The numbers that the linear form allows are the accepted ones, up to multiples of 2³². -/
theorem mem_numbers_addAll_iff (target : Arch) (calls : List (Int × Bytes)) (number : Int32) :
    number.toUInt32 ∈ ((Allowlist.empty target).addAll calls).numbers.map UInt32.ofNat ↔
      ∃ n ∈ (Allowlist.empty target).accepted calls,
        n % 0x100000000 = number.toInt % 0x100000000 := by
  have haccepted : ∀ z : Int, z ∈ (Allowlist.empty target).accepted calls ↔
      ∃ n ∈ ((Allowlist.empty target).addAll calls).numbers, (n : Int) = z := by
    intro z
    rw [Allowlist.mem_numbers_iff_accepted (Allowlist.sound_empty target)]
    exact (or_iff_right fun ⟨_, hn, _⟩ => List.not_mem_nil hn).symm
  rw [List.mem_map]
  constructor
  · rintro ⟨n, hn, he⟩
    exact ⟨n, (haccepted n).mpr ⟨n, hn, rfl⟩, (toUInt32_eq_ofNat_iff n number).mp he.symm⟩
  · rintro ⟨z, hz, he⟩
    obtain ⟨n, hn, rfl⟩ := (haccepted z).mp hz
    exact ⟨n, hn, ((toUInt32_eq_ofNat_iff n number).mpr he).symm⟩

/-- Whatever calls built it, an allowlist is emitted in the linear form, and the filter decides by
    the architecture, the x32 bit and the accepted numbers alone. -/
theorem emit_linear_verdict (target : Arch) (calls : List (Int × Bytes)) :
    ∃ f, Emitter.linear.emit ((Allowlist.empty target).addAll calls) = .ok f ∧
      (∀ c : Call, f.evaluate c = .ok
        (if c.arch ≠ target.auditId then 0x80000000
        else if target.refusesX32 = true ∧ 0x40000000 ≤ c.number.toUInt32 then 0x80000000
        else if ∃ n ∈ (Allowlist.empty target).accepted calls,
          n % 0x100000000 = c.number.toInt % 0x100000000 then 0x7fff0000
        else 0x80000000)) ∧
      ∀ (number : Int32) (arch : UInt32) (address address' : UInt64)
        (arguments arguments' : Vector UInt64 6),
        f.evaluate ⟨number, arch, address, arguments⟩ =
          f.evaluate ⟨number, arch, address', arguments'⟩ := by
  have harch : ((Allowlist.empty target).addAll calls).arch = target :=
    Allowlist.arch_addAll _ calls
  obtain ⟨f, hf, -, heval⟩ := emit_linear ((Allowlist.sound_empty target).addAll calls)
  refine ⟨f, hf, ?_, ?_⟩
  · intro c
    rw [heval, linearVerdict, harch]
    simp only [mem_numbers_addAll_iff]
    rfl
  · intro number arch address address' arguments arguments'
    rw [heval, heval]
    rfl

/-! ### Rules and their numbers -/

/-- The constant that the comparison of a rule is made with. -/
def ruleConstant? : Instruction → Option UInt32
  | .jumpIf test k t f => if test = .equal ∧ t = 0 ∧ f = 1 then some k else none
  | _ => none

/-- The constants of all rules in a program, in order. -/
def ruleConstants (program : List Instruction) : List UInt32 := program.filterMap ruleConstant?

theorem ruleConstants_append (program more : List Instruction) :
    ruleConstants (program ++ more) = ruleConstants program ++ ruleConstants more :=
  List.filterMap_append

theorem ruleConstants_rules : ∀ rules : List Rule,
    ruleConstants (rules.flatMap ruleInstructions) = (rules.map (·.number)).map UInt32.ofNat
  | [] => rfl
  | rule :: rules => by
    rw [List.flatMap_cons, ruleConstants_append, ruleConstants_rules rules]
    rfl

/-- The linear form has the low 32 bits of each rule's number as the rule's constant. -/
theorem ruleConstants_linear (p : Allowlist) :
    ruleConstants (linear p) = p.numbers.map UInt32.ofNat := by
  -- The jump behind the architecture skips the other way, so it is not taken for a rule.
  have hfront : ruleConstants [.loadAbsolute Call.archOffset .word,
      .jumpIf .equal p.arch.auditId 1 0, .retConstant p.fallback.verdict,
      .loadAbsolute Call.numberOffset .word] = [] := rfl
  have hx32 : ruleConstants (x32Instructions p) = [] := by
    unfold x32Instructions
    split
    · rfl
    · rfl
  have hlast : ruleConstants [.retConstant p.fallback.verdict] = [] := rfl
  rw [linear, ruleConstants_append, ruleConstants_append, ruleConstants_append, hfront, hx32, hlast,
    ruleConstants_rules, List.append_nil]
  rfl

/-- The low 32 bits of a number are the number itself, as a call has it, below 2³¹ alone. -/
theorem toInt_ofNat_iff (n : Nat) : (UInt32.ofNat n).toInt32.toInt = n ↔ n < 0x80000000 := by
  rw [toInt_eq_toNat_toUInt32, UInt32.toUInt32_toInt32, UInt32.toNat_ofNat']
  split <;> omega

/-- What it means that each rule of an allowlist stands for the calls of its own number in the
    filter of its linear form. -/
structure StandForThemselves (p : Allowlist) (f : Filter) : Prop where
  /-- A call that is allowed has the number of a rule. -/
  allowed : ∀ c : Call, f.evaluate c = .ok 0x7fff0000 →
    ∃ r ∈ p.rules, (r.number : Int) = c.number.toInt
  /-- Read as the numbers of calls, the constants are the numbers of the rules. -/
  constants : (ruleConstants (linear p)).map (·.toInt32.toInt) =
    p.rules.map fun r => (r.number : Int)
  /-- No two rules have the same constant. -/
  distinct : (ruleConstants (linear p)).Nodup

/-- The constants of the linear form are the numbers of the rules exactly when these are below
    2³¹. -/
theorem ruleConstants_own_iff (p : Allowlist) :
    (ruleConstants (linear p)).map (·.toInt32.toInt) = (p.rules.map fun r => (r.number : Int)) ↔
      ∀ r ∈ p.rules, r.number < 0x80000000 := by
  rw [ruleConstants_linear, Allowlist.numbers, List.map_map, List.map_map, List.map_inj_left]
  exact forall₂_congr fun r _ => toInt_ofNat_iff r.number

/-- Whatever calls built an allowlist, each of its rules stands for its own number in the linear
    form exactly when all numbers of rules are below 2³¹. -/
theorem standForThemselves_iff (target : Arch) (calls : List (Int × Bytes)) :
    ∃ f, Emitter.linear.emit ((Allowlist.empty target).addAll calls) = .ok f ∧
      (StandForThemselves ((Allowlist.empty target).addAll calls) f ↔
        ∀ r ∈ ((Allowlist.empty target).addAll calls).rules, r.number < 0x80000000) := by
  have hsound := (Allowlist.sound_empty target).addAll calls
  generalize (Allowlist.empty target).addAll calls = p at hsound ⊢
  have hown := ruleConstants_own_iff p
  obtain ⟨f, hf, -, heval⟩ := emit_linear hsound
  refine ⟨f, hf, fun h => hown.mp h.constants, fun h => ⟨?_, hown.mpr h, ?_⟩⟩
  · intro c hc
    rw [heval] at hc
    obtain ⟨-, -, r, hr, he⟩ := linearVerdict_eq_allow.mp (Except.ok.inj hc)
    refine ⟨r, hr, ?_⟩
    calc (r.number : Int) = (UInt32.ofNat r.number).toInt32.toInt :=
          ((toInt_ofNat_iff r.number).mpr (h r hr)).symm
      _ = c.number.toUInt32.toInt32.toInt := by rw [he]
      _ = c.number.toInt := by rw [Int32.toInt32_toUInt32]
  · -- The constants are distinct because the numbers that they are read as are.
    refine List.Nodup.of_map (·.toInt32.toInt) ?_
    rw [hown.mpr h]
    have hnumbers := hsound.distinct.map fun (m n : Nat) (he : (m : Int) = n) => Int.ofNat_inj.mp he
    rwa [Allowlist.numbers, List.map_map] at hnumbers

/-- A call that adds a number of 33 bits. -/
def wideCalls : List (Int × Bytes) := [(0x100000000, utf8 "wide")]

/-- A rule of 33 bits allows the call whose number is its low 32 bits, though no rule has it. -/
theorem linear_allows_unlisted_number :
    ∃ f, Emitter.linear.emit ((Allowlist.empty (.ofPlatform Arch.host .x8664)).addAll wideCalls) =
        .ok f ∧
      f.evaluate { number := 0, arch := 0xc000003e } = .ok 0x7fff0000 ∧
      ∀ r ∈ ((Allowlist.empty (.ofPlatform Arch.host .x8664)).addAll wideCalls).rules,
        (r.number : Int) ≠ (0 : Int32).toInt := by
  have hsound := (Allowlist.sound_empty (.ofPlatform Arch.host .x8664)).addAll wideCalls
  obtain ⟨f, hf, -, heval⟩ := emit_linear hsound
  refine ⟨f, hf, ?_, by decide +kernel⟩
  rw [heval]
  decide +kernel

end Emit

/-! ### Calls of the x32 variant -/

namespace Arch

/-- The names that lead to the host's own name. -/
theorem canonical_eq_host {name : Bytes} :
    canonical name = host ↔ name = [] ∨ name = utf8 "amd64" ∨ name = utf8 "x86_64" := by
  by_cases hempty : name = []
  · rw [hempty]
    exact iff_of_true (by decide +kernel) (Or.inl rfl)
  · simp only [canonical, hempty, if_false, false_or]
    cases halias : aliases.lookup name with
    | none =>
      have hother : name ≠ utf8 "x86_64" := by
        rintro rfl
        exact absurd halias (by decide +kernel)
      exact (or_iff_left hother).symm
    | some replacement =>
      obtain ⟨before, after, hsplit, -⟩ := List.lookup_eq_some_iff.mp halias
      have hmem : (name, replacement) ∈ aliases := by simp [hsplit]
      simp only [aliases, List.mem_cons, List.not_mem_nil, or_false, Prod.mk.injEq] at hmem
      rcases hmem with ⟨rfl, rfl⟩ | ⟨rfl, rfl⟩ | ⟨rfl, rfl⟩ | ⟨rfl, rfl⟩ | ⟨rfl, rfl⟩
      · exact iff_of_true rfl (Or.inr rfl)
      · decide +kernel
      · decide +kernel
      · decide +kernel
      · decide +kernel

/-- A target refuses the calls of the x32 variant under the names of the host alone. -/
theorem refusesX32_iff {name : Bytes} {target : Arch} (h : lookup name = .ok target) :
    target.refusesX32 = true ↔ name = [] ∨ name = utf8 "amd64" ∨ name = utf8 "x86_64" := by
  obtain ⟨p, -, rfl⟩ := lookup_eq_ok h
  rw [← canonical_eq_host]
  exact decide_eq_true_iff

end Arch

namespace Emit

/-- The linear form kills the process on all calls with the x32 bit if it has the check for the bit,
    and else if no rule has the bit in its constant. -/
theorem linearVerdict_x32_iff (p : Allowlist) :
    (∀ c : Call, c.arch = p.arch.auditId → x32Bit ≤ c.number.toUInt32 →
      linearVerdict p c ≠ Verdict.allow) ↔
    p.arch.refusesX32 = true ∨ ∀ r ∈ p.rules, r.number % 0x100000000 < 0x40000000 := by
  have hbit : ∀ n : Nat, x32Bit ≤ UInt32.ofNat n ↔ ¬ n % 0x100000000 < 0x40000000 := by
    intro n
    rw [Nat.not_lt, UInt32.le_iff_toNat_le, UInt32.toNat_ofNat']
    rfl
  constructor
  · intro hkills
    by_contra hnot
    obtain ⟨hcheck, hrules⟩ := not_or.mp hnot
    obtain ⟨r, hr, hlarge⟩ : ∃ r ∈ p.rules, ¬ r.number % 0x100000000 < 0x40000000 := by
      simpa using hrules
    -- The call with the rule's constant as its number gets past the check and is allowed.
    have hword : (UInt32.ofNat r.number).toInt32.toUInt32 = .ofNat r.number :=
      UInt32.toUInt32_toInt32 _
    refine hkills { number := (UInt32.ofNat r.number).toInt32, arch := p.arch.auditId } rfl
      (hword.symm ▸ (hbit r.number).mpr hlarge) (linearVerdict_eq_allow.mpr ⟨rfl, ?_, ?_⟩)
    · exact fun hboth => hcheck hboth.1
    · exact ⟨r, hr, hword.symm⟩
  · intro hor c harch hlarge hallow
    obtain ⟨-, hpast, r, hr, he⟩ := linearVerdict_eq_allow.mp hallow
    rcases hor with hcheck | hrules
    · exact hpast ⟨hcheck, hlarge⟩
    · exact (hbit r.number).mp (he ▸ hlarge) (hrules r hr)

/-- Whatever calls built an allowlist, its linear form kills the process on every call of the x32
    variant exactly when the target was asked for by the empty name or by one of the host's names in
    its own spelling, or no rule happens to have the x32 bit in its constant. -/
theorem kills_x32_iff {name : Bytes} {target : Arch} (hlookup : Arch.lookup name = .ok target)
    (calls : List (Int × Bytes)) :
    ∃ f, Emitter.linear.emit ((Allowlist.empty target).addAll calls) = .ok f ∧
      ((∀ c : Call, c.arch = target.auditId → 0x40000000 ≤ c.number.toUInt32 →
          f.evaluate c = .ok 0x80000000) ↔
        (name = [] ∨ name = utf8 "amd64" ∨ name = utf8 "x86_64") ∨
          ∀ r ∈ ((Allowlist.empty target).addAll calls).rules,
            r.number % 0x100000000 < 0x40000000) := by
  have harch : ((Allowlist.empty target).addAll calls).arch = target :=
    Allowlist.arch_addAll _ calls
  have hx32 := linearVerdict_x32_iff ((Allowlist.empty target).addAll calls)
  rw [harch, Arch.refusesX32_iff hlookup] at hx32
  obtain ⟨f, hf, -, heval⟩ := emit_linear ((Allowlist.sound_empty target).addAll calls)
  refine ⟨f, hf, Iff.trans ?_ hx32⟩
  refine forall_congr' fun c => imp_congr_right fun _ => imp_congr_right fun _ => ?_
  rw [heval, Except.ok.injEq]
  exact linearVerdict_eq_kill

/-- A call that adds a number with the x32 bit. -/
def x32Calls : List (Int × Bytes) := [(0x40000000, utf8 "x32_read")]

theorem kills_x32_of_alias :
    Arch.lookup (utf8 "x86_64") = .ok (.ofPlatform Arch.host .x8664) ∧
    ∃ f, Emitter.linear.emit ((Allowlist.empty (.ofPlatform Arch.host .x8664)).addAll x32Calls) =
        .ok f ∧
      f.evaluate { number := 0x40000000, arch := 0xc000003e } = .ok 0x80000000 := by
  have hlookup : Arch.lookup (utf8 "x86_64") = .ok (.ofPlatform Arch.host .x8664) :=
    Arch.lookup_host (by decide +kernel)
  obtain ⟨f, hf, hkills⟩ := kills_x32_iff hlookup x32Calls
  exact ⟨hlookup, f, hf, hkills.mpr (Or.inl (Or.inr (Or.inr rfl))) _ rfl (by decide)⟩

/-- In capitals, the host's name leads to the same family, but the filter allows a call of the x32
    variant. -/
theorem linear_allows_x32_in_capitals :
    ∃ target f, Arch.lookup (utf8 "AMD64") = .ok target ∧ target.auditId = 0xc000003e ∧
      Emitter.linear.emit ((Allowlist.empty target).addAll x32Calls) = .ok f ∧
      f.evaluate { number := 0x40000000, arch := 0xc000003e } = .ok 0x7fff0000 := by
  have hname : Arch.canonical (utf8 "AMD64") = utf8 "AMD64" := by decide +kernel
  have hlower : Text.lower (utf8 "AMD64") = Arch.host := by decide +kernel
  have hlookup : Arch.lookup (utf8 "AMD64") = .ok (.ofPlatform (utf8 "AMD64") .x8664) := by
    rw [Arch.lookup_of_lower (hname.symm ▸ hlower), hname]
  obtain ⟨f, hf, -, heval⟩ :=
    emit_linear ((Allowlist.sound_empty (.ofPlatform (utf8 "AMD64") .x8664)).addAll x32Calls)
  refine ⟨_, f, hlookup, rfl, hf, ?_⟩
  rw [heval]
  decide +kernel

end Emit

end SyscallFilter
