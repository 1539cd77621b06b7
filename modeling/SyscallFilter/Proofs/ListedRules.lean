import SyscallFilter.Proofs.Compilation
import SyscallFilter.Proofs.GroupedForm
import SyscallFilter.Proofs.LinearVerdicts

/-! Whether a compiled filter allows what its listing shows. A rule has a number, which listings
    show, and a name. The linear form is made from the numbers. The grouped form is made from the
    names, which it looks up in the host's own table once more:

        resolver ──▶ number ──▶ listing, linear form
        name ──▶ host's table ──▶ number ──▶ grouped form

    The two numbers of a rule come from different places when another resolver takes the place of
    the table. So a filter in the grouped form allows the listed calls exactly when the names of all
    rules together have the numbers of all rules together. -/

namespace SyscallFilter

open Policy

namespace Emitter

/-- The number under which an emitter takes a rule for a target. -/
def numberOf? (e : Emitter) (a : Arch) (r : Rule) : Option Nat :=
  match e with
  | .linear => some r.number
  | .grouped => a.table.numberOf? r.name

end Emitter

namespace Emit

/-- Below the x32 bit, words are the same where numbers are. -/
theorem ofNat_eq_toUInt32_iff {m n : Nat} (hm : m < 0x40000000) (hn : n < 0x40000000) :
    UInt32.ofNat m = (Int32.ofInt n).toUInt32 ↔ m = n := by
  rw [eq_comm, (toUInt32_eq_ofNat hm (Int32.ofInt n)).1, (toInt_ofInt_of_small hn).1]
  exact Int.ofNat_inj

theorem linearVerdict_number {p : Allowlist} (h : ∀ r ∈ p.rules, r.number < 0x40000000) {n : Nat}
    (hn : n < 0x40000000) :
    linearVerdict p { number := .ofInt n, arch := p.arch.auditId } = Verdict.allow ↔
      ∃ r ∈ p.rules, r.number = n := by
  have hx : ¬ x32Bit ≤ (Int32.ofInt n).toUInt32 := UInt32.not_le.mpr (toInt_ofInt_of_small hn).2
  rw [linearVerdict_eq_allow]
  constructor
  · rintro ⟨-, -, r, hr, he⟩
    exact ⟨r, hr, (ofNat_eq_toUInt32_iff (h r hr) hn).mp he⟩
  · rintro ⟨r, hr, rfl⟩
    exact ⟨rfl, fun hboth => hx hboth.2, r, hr, (ofNat_eq_toUInt32_iff hn hn).mpr rfl⟩

theorem groupVerdict_number {auditId : UInt32} {numbers : List Nat}
    (h : ∀ m ∈ numbers, m < 0x40000000) {n : Nat} (hn : n < 0x40000000) :
    groupVerdict auditId numbers { number := .ofInt n, arch := auditId } = Verdict.allow ↔
      n ∈ numbers := by
  have hx : ¬ x32Bit ≤ (Int32.ofInt n).toUInt32 := UInt32.not_le.mpr (toInt_ofInt_of_small hn).2
  have hkill : Verdict.killProcess ≠ Verdict.allow := by decide
  have hmem : (Int32.ofInt n).toUInt32 ∈ numbers.map UInt32.ofNat ↔ n ∈ numbers := by
    rw [List.mem_map]
    constructor
    · rintro ⟨m, hm, he⟩
      exact (ofNat_eq_toUInt32_iff (h m hm) hn).mp he ▸ hm
    · intro hm
      exact ⟨n, hm, (ofNat_eq_toUInt32_iff hn hn).mpr rfl⟩
  simp [groupVerdict, hx, hkill, hmem]

/-- The numbers of a group are those of the rules' names in the table. -/
theorem mem_groupNumbers {p : Allowlist} {numbers : List Nat}
    (h : groupNumbers p.arch [] p.names = (numbers, [])) (n : Nat) :
    n ∈ numbers ↔ ∃ r ∈ p.rules, p.arch.table.numberOf? r.name = some n := by
  have hsome : some n ∈ numbers.map some ↔ n ∈ numbers := by simp
  rw [← hsome, ← numberOf?_of_groupNumbers h, Allowlist.names, List.map_map, List.mem_map]
  rfl

end Emit

/-! ### What a filter allows -/

/-- Below the x32 bit, a filter allows the numbers under which its emitter takes the rules. -/
theorem Emitter.evaluate_number {e : Emitter} {p : Allowlist} {f : Filter} (hsound : p.Sound)
    (htable : p.arch.table.WellFormed) (hsmall : ∀ r ∈ p.rules, r.number < 0x40000000)
    (h : e.emit p = .ok f) {n : Nat} (hn : n < 0x40000000) :
    f.evaluate { number := .ofInt n, arch := p.arch.auditId } = .ok Verdict.allow ↔
      ∃ r ∈ p.rules, e.numberOf? p.arch r = some n := by
  cases e with
  | linear =>
    obtain ⟨g, hg, -, heval⟩ := Emit.emit_linear hsound
    obtain rfl := Except.ok.inj (hg.symm.trans h)
    rw [heval, Except.ok.injEq, Emit.linearVerdict_number hsmall hn]
    simp only [Emitter.numberOf?, Option.some.injEq]
  | grouped =>
    obtain ⟨hnative, hne, numbers, hnumbers, -⟩ := emitGrouped_eq_ok h
    have hmem := Emit.mem_groupNumbers hnumbers
    have hgroup : ∀ m ∈ numbers, m < 0x40000000 := by
      intro m hm
      obtain ⟨r, -, hr⟩ := (hmem m).mp hm
      exact htable.small _ ((SyscallTable.numberOf?_eq_some htable.distinct).mp hr)
    obtain ⟨g, hg, heval⟩ := Emit.emit_grouped_of_numbers hsound hnative hne hnumbers
    obtain rfl := Except.ok.inj (hg.symm.trans h)
    rw [heval, Except.ok.injEq, Emit.groupVerdict_number hgroup hn, hmem]
    rfl

/-- A compiled filter is the one of its allowlist, which calls have built. -/
theorem emit_of_compile {source : Source} {config : Config} {c : Compilation}
    (h : (compile source config).outcome = .ok c) :
    ∃ e, Emitter.ofName config.emitter = .ok e ∧ e.emit c.allowlist = .ok c.filter ∧
      c.allowlist.Sound := by
  obtain ⟨target, e, lines, draft, -, hemitter, -, hrun, hfinish⟩ := compile_eq_ok h
  obtain ⟨hlist, hemit, -⟩ := Draft.finish_eq_ok hfinish
  refine ⟨e, hemitter, hlist ▸ hemit, ?_⟩
  rw [hlist, Draft.allowlist_addAll hrun]
  exact (Allowlist.sound_empty target).addAll _

/-- Where no rule has the x32 bit, a compiled filter allows the numbers of the listed rules and no
    others below that bit exactly when it has the linear form, or the names of the rules have, all
    together, the numbers of the rules in the target's own table. -/
theorem allows_listed_iff {source : Source} {config : Config} {c : Compilation}
    (h : (compile source config).outcome = .ok c)
    (hsmall : ∀ r ∈ c.allowlist.rules, r.number < 0x40000000) :
    (∀ n : Nat, n < 0x40000000 →
      (c.filter.evaluate { number := .ofInt n, arch := c.allowlist.arch.auditId } = .ok 0x7fff0000 ↔
        ∃ r ∈ c.allowlist.rules, r.number = n)) ↔
    Emitter.ofName config.emitter = .ok .linear ∨
      ∀ n : Nat, (∃ r ∈ c.allowlist.rules, c.allowlist.arch.table.numberOf? r.name = some n) ↔
        ∃ r ∈ c.allowlist.rules, r.number = n := by
  have htable := Arch.wellFormed_of_lookup (arch_of_compile h)
  obtain ⟨e, hemitter, hemit, hsound⟩ := emit_of_compile h
  have hallows : ∀ n : Nat, n < 0x40000000 →
      (c.filter.evaluate { number := .ofInt n, arch := c.allowlist.arch.auditId } = .ok 0x7fff0000 ↔
        ∃ r ∈ c.allowlist.rules, e.numberOf? c.allowlist.arch r = some n) :=
    fun n hn => Emitter.evaluate_number hsound htable hsmall hemit hn
  cases e with
  | linear =>
    refine iff_of_true (fun n hn => ?_) (Or.inl hemitter)
    rw [hallows n hn]
    simp only [Emitter.numberOf?, Option.some.injEq]
  | grouped =>
    have hform : Emitter.ofName config.emitter ≠ .ok .linear := by simp [hemitter]
    rw [or_iff_right hform]
    constructor
    · intro hlisted n
      by_cases hn : n < 0x40000000
      · exact (hallows n hn).symm.trans (hlisted n hn)
      · -- Neither the table nor the rules have such a number.
        refine iff_of_false ?_ ?_
        · rintro ⟨r, -, hr⟩
          exact hn (htable.small _ ((SyscallTable.numberOf?_eq_some htable.distinct).mp hr))
        · rintro ⟨r, hr, rfl⟩
          exact hn (hsmall r hr)
    · intro hsame n hn
      exact (hallows n hn).trans (hsame n)

/-- What holds of the result for the host, in the grouped form and with a resolver, holds of the
    compilation. -/
theorem compile_grouped {text : Bytes} {resolver : Resolver} {P : Compilation → Prop}
    (h : ∃ c ∈ (compileFor (.ofPlatform Arch.host .x8664) .grouped resolver
      (.ofBytes text)).outcome.toOption, P c) :
    ∃ c, (compile (.ofBytes text) { emitter := utf8 "policy", resolver := some resolver }).outcome =
        .ok c ∧ P c := by
  have harch : Arch.lookup [] = .ok (.ofPlatform Arch.host .x8664) :=
    Arch.lookup_host (by decide +kernel)
  have hemitter : Emitter.ofName (utf8 "policy") = .ok .grouped := by decide +kernel
  obtain ⟨c, hmem, hc⟩ := h
  refine ⟨c, ?_, hc⟩
  simp only [compile, harch, hemitter, Option.getD_some]
  cases houtcome :
      (compileFor (.ofPlatform Arch.host .x8664) .grouped resolver (.ofBytes text)).outcome with
  | error e => simp [houtcome, Except.toOption] at hmem
  | ok c' =>
    rw [houtcome] at hmem
    exact congrArg Except.ok (Option.some.inj hmem)

/-- Two names with their numbers exchanged. -/
def exchanged : Resolver := fun name =>
  if name = utf8 "read" then ⟨1, none⟩
  else if name = utf8 "write" then ⟨0, none⟩
  else ⟨Resolution.failed, some (utf8 "no such call")⟩

theorem allows_listed_exchanged :
    ∃ c, (compile (.ofBytes (utf8 "read\nwrite\n"))
        { emitter := utf8 "policy", resolver := some exchanged }).outcome = .ok c ∧
      c.allowlist.rules = [⟨1, utf8 "read", .allow⟩, ⟨0, utf8 "write", .allow⟩] ∧
      (∀ r ∈ c.allowlist.rules, r.number < 0x40000000) ∧
      ∀ n : Nat, n < 0x40000000 →
        (c.filter.evaluate { number := .ofInt n, arch := c.allowlist.arch.auditId } =
            .ok 0x7fff0000 ↔
          ∃ r ∈ c.allowlist.rules, r.number = n) := by
  obtain ⟨c, hc, hrules, hread, hwrite⟩ : ∃ c, (compile (.ofBytes (utf8 "read\nwrite\n"))
      { emitter := utf8 "policy", resolver := some exchanged }).outcome = .ok c ∧
        c.allowlist.rules = [⟨1, utf8 "read", .allow⟩, ⟨0, utf8 "write", .allow⟩] ∧
        c.allowlist.arch.table.numberOf? (utf8 "read") = some 0 ∧
        c.allowlist.arch.table.numberOf? (utf8 "write") = some 1 :=
    compile_grouped (by rw [compileFor_ofBytes]; decide +kernel)
  have hsmall : ∀ r ∈ c.allowlist.rules, r.number < 0x40000000 := by
    rw [hrules]
    decide
  refine ⟨c, hc, hrules, hsmall, (allows_listed_iff hc hsmall).mpr (Or.inr fun n => ?_)⟩
  -- Together the two names have the numbers 0 and 1, as the two rules do.
  simp only [hrules, List.mem_cons, List.not_mem_nil, or_false, exists_eq_or_imp, exists_eq_left,
    hread, hwrite, Option.some.injEq]
  exact Or.comm

/-- A resolver with one number for all names. -/
def always (number : Int) : Resolver := fun _ => ⟨number, none⟩

/-- With another number for its name, the grouped form allows the number in the table and kills the
    process on the one that is listed. -/
theorem grouped_allows_unlisted_number :
    ∃ c, (compile (.ofBytes (utf8 "read\n"))
        { emitter := utf8 "policy", resolver := some (always 5) }).outcome = .ok c ∧
      c.allowlist.rules = [⟨5, utf8 "read", .allow⟩] ∧
      c.filter.evaluate { number := 0, arch := c.allowlist.arch.auditId } = .ok 0x7fff0000 ∧
      c.filter.evaluate { number := 5, arch := c.allowlist.arch.auditId } = .ok 0x80000000 :=
  compile_grouped (by rw [compileFor_ofBytes]; decide +kernel)

end SyscallFilter
