import SyscallFilter.Proofs.Accounts

/-! A policy is a set of names. Two texts that name the same calls ask for the same numbers, however
    their lines are ordered and repeated and whatever stands between them. So there is room for the
    numbers of both or of neither, though the line that is one too many differs, and a number has a
    rule in both or in neither, though the rules can stand in another order and under another name.
    The verdicts of the linear form depend on the set of numbers alone. -/

namespace SyscallFilter

open Policy

/-- The names on the lines of a text that are neither blank nor comments. -/
def Policy.syscallNames (text : Bytes) : Finset Bytes :=
  (((text.lines.map classify).filter (·.kind = .syscall)).map Content.name).toFinset

theorem mem_syscallNames {text name : Bytes} :
    name ∈ syscallNames text ↔ .syscall name ∈ text.lines.map classify := by
  have hcontent : ∀ content : Content,
      content.kind = .syscall ∧ content.name = name ↔ content = .syscall name := by
    intro content
    cases content <;> simp [Content.kind, Content.name]
  simp only [syscallNames, List.mem_toFinset, List.mem_map, List.mem_filter, decide_eq_true_eq,
    and_assoc, hcontent]
  simp

variable {resolver : Resolver}

/-- The numbers that lines ask for are those of their names that can be resolved. -/
theorem mem_numbersOf {contents : List Content} {number : Int} :
    number ∈ numbersOf resolver contents ↔ ∃ name, .syscall name ∈ contents ∧
      (resolver name).isUnresolved = false ∧ (resolver name).number = number := by
  rw [numbersOf, List.mem_toFinset, List.mem_map]
  constructor
  · rintro ⟨⟨_, name⟩, hcall, rfl⟩
    exact ⟨name, mem_requests.mp hcall⟩
  · rintro ⟨name, hname⟩
    exact ⟨(number, name), mem_requests.mpr hname, rfl⟩

/-- A line counts as unresolved for its name alone. -/
theorem classAfter_eq_unresolved {before : List Content} {content : Content} :
    content.classAfter resolver before = .unresolved ↔
      ∃ name, content = .syscall name ∧ (resolver name).isUnresolved = true := by
  cases content with
  | blank => simp [Content.classAfter]
  | comment => simp [Content.classAfter]
  | syscall name =>
    simp only [Content.classAfter, Content.syscall.injEq, exists_eq_left']
    split
    · next hu => simp [hu]
    · next hu => split <;> simp [hu]

theorem mem_linesOf_unresolved {before : List Content} {lines : List Line} {line : Line} :
    line ∈ linesOf resolver .unresolved before lines ↔ line ∈ lines ∧
      ∃ name, line.content = .syscall name ∧ (resolver name).isUnresolved = true := by
  induction lines generalizing before with
  | nil => simp [linesOf]
  | cons first rest ih =>
    rw [linesOf, List.mem_append, List.mem_ite_nil_right, List.mem_singleton, List.mem_cons, ih,
      classAfter_eq_unresolved]
    constructor
    · rintro (⟨hu, rfl⟩ | ⟨hmem, hu⟩)
      · exact ⟨Or.inl rfl, hu⟩
      · exact ⟨Or.inr hmem, hu⟩
    · rintro ⟨rfl | hmem, hu⟩
      · exact Or.inl ⟨hu, rfl⟩
      · exact Or.inr ⟨hmem, hu⟩

/-- The verdicts of the linear form depend on the target and the set of numbers. -/
theorem Emit.linearVerdict_congr {p q : Allowlist} (harch : p.arch = q.arch)
    (hnumbers : ∀ n, n ∈ p.numbers ↔ n ∈ q.numbers) (call : Call) :
    linearVerdict p call = linearVerdict q call := by
  simp only [linearVerdict, harch, List.mem_map, hnumbers]

/-! ### One text -/

/-- What the compilation of a text with room for its numbers says about its names. -/
theorem compileFor_of_names {text : Bytes}
    (hroom : (numbersOf resolver (text.lines.map classify)).card ≤ Allowlist.maxRules)
    (target : Arch) :
    ∃ c, (compileFor target .linear resolver (.ofBytes text)).outcome = .ok c ∧
      c.allowlist.arch = target ∧
      (∀ n : Nat, n ∈ c.allowlist.numbers ↔
        (n : Int) ∈ numbersOf resolver (text.lines.map classify)) ∧
      (∀ name, name ∈ c.unresolved.map (·.content.name) ↔
        name ∈ syscallNames text ∧ (resolver name).isUnresolved = true) ∧
      ∀ call, c.filter.evaluate call = .ok (Emit.linearVerdict c.allowlist call) := by
  have hcontents := contents_numbered 0 text.lines
  obtain ⟨d, h, harch, houtcome⟩ := compileFor_of_room (readLines_ofBytes text)
    (hcontents.symm ▸ hroom) target .linear
  obtain ⟨c, hc, hlist, haccounts, heval⟩ := h.finish
  refine ⟨c, houtcome.trans hc, hlist ▸ harch, ?_, ?_, heval⟩
  · intro n
    rw [hlist, ← h.mem_numbers, hcontents]
  · intro name
    rw [haccounts.unresolved, mem_syscallNames, ← hcontents]
    simp only [List.mem_map, mem_linesOf_unresolved]
    constructor
    · rintro ⟨line, ⟨hline, name', hcontent, hu⟩, rfl⟩
      have hname : line.content.name = name' := by rw [hcontent]; rfl
      rw [hname]
      exact ⟨⟨line, hline, hcontent⟩, hu⟩
    · rintro ⟨⟨line, hline, hcontent⟩, hu⟩
      exact ⟨line, ⟨hline, name, hcontent, hu⟩, by rw [hcontent]; rfl⟩

theorem compileFor_of_too_many_names {text : Bytes}
    (hfull : Allowlist.maxRules < (numbersOf resolver (text.lines.map classify)).card)
    (target : Arch) :
    ∃ number name, (compileFor target .linear resolver (.ofBytes text)).outcome =
      .error (.rule number name (.full name)) := by
  obtain ⟨-, line, -, name, -, -, -, -, houtcome⟩ := compileFor_of_no_room (readLines_ofBytes text)
    ((contents_numbered 0 text.lines).symm ▸ hfull) target .linear
  exact ⟨line.number, name, houtcome⟩

/-! ### Two texts -/

/-- Texts with the same names ask for the same numbers. -/
theorem numbersOf_congr (resolver : Resolver) {text other : Bytes}
    (h : syscallNames text = syscallNames other) :
    numbersOf resolver (text.lines.map classify) =
      numbersOf resolver (other.lines.map classify) := by
  ext number
  simp only [mem_numbersOf, ← mem_syscallNames, h]

/-- Two texts that name the same calls both have too many numbers for a filter, or both are compiled
    to filters with the same verdicts, the same numbers and the same unresolved names. -/
theorem compile_same_names {config : Config} {target : Arch}
    (harch : Arch.lookup config.arch = .ok target)
    (hemitter : Emitter.ofName config.emitter = .ok .linear) {text other : Bytes}
    (h : syscallNames text = syscallNames other) :
    (∃ line line' name name',
      (compile (.ofBytes text) config).outcome = .error (.rule line name (.full name)) ∧
      (compile (.ofBytes other) config).outcome = .error (.rule line' name' (.full name'))) ∨
    ∃ c c', (compile (.ofBytes text) config).outcome = .ok c ∧
      (compile (.ofBytes other) config).outcome = .ok c' ∧
      (∀ call : Call, ∃ verdict, c.filter.evaluate call = .ok verdict ∧
        c'.filter.evaluate call = .ok verdict) ∧
      c.allowlist.numbers.toFinset = c'.allowlist.numbers.toFinset ∧
      (c.unresolved.map (·.content.name)).toFinset =
        (c'.unresolved.map (·.content.name)).toFinset := by
  simp only [compile, harch, hemitter]
  generalize config.resolver.getD target.resolve = resolver
  have hnumbers := numbersOf_congr resolver h
  by_cases hroom : (numbersOf resolver (text.lines.map classify)).card ≤ Allowlist.maxRules
  · obtain ⟨c, hc, hca, hcn, hcu, hce⟩ := compileFor_of_names hroom target
    obtain ⟨c', hc', hca', hcn', hcu', hce'⟩ := compileFor_of_names (hnumbers ▸ hroom) target
    have hsame : ∀ n, n ∈ c.allowlist.numbers ↔ n ∈ c'.allowlist.numbers := by
      intro n
      rw [hcn, hcn', hnumbers]
    refine Or.inr ⟨c, c', hc, hc', ?_, ?_, ?_⟩
    · intro call
      refine ⟨_, hce call, ?_⟩
      rw [hce', Emit.linearVerdict_congr (hca.trans hca'.symm) hsame]
    · ext n
      rw [List.mem_toFinset, List.mem_toFinset, hsame]
    · ext name
      rw [List.mem_toFinset, List.mem_toFinset, hcu, hcu', h]
  · have hfull := Nat.lt_of_not_le hroom
    obtain ⟨line, name, hfail⟩ := compileFor_of_too_many_names hfull target
    obtain ⟨line', name', hfail'⟩ := compileFor_of_too_many_names (hnumbers ▸ hfull) target
    exact Or.inl ⟨line, line', name, name', hfail, hfail'⟩

/-- The calls of `mixedPolicy` in another order, with one of them twice. -/
def shuffledPolicy : Bytes := utf8 "bogus\nopen\nread\nopen\n"

theorem compile_same_names_shuffledPolicy :
    syscallNames mixedPolicy = syscallNames shuffledPolicy ∧
    ∃ c c', (compile (.ofBytes mixedPolicy) { resolver := some byLength }).outcome = .ok c ∧
      (compile (.ofBytes shuffledPolicy) { resolver := some byLength }).outcome = .ok c' ∧
      (∀ call : Call, ∃ verdict, c.filter.evaluate call = .ok verdict ∧
        c'.filter.evaluate call = .ok verdict) ∧
      c.allowlist.numbers.toFinset = c'.allowlist.numbers.toFinset := by
  have harch : Arch.lookup [] = .ok (.ofPlatform Arch.host .x8664) :=
    Arch.lookup_host (by decide +kernel)
  have hemitter : Emitter.ofName [] = .ok .linear := rfl
  have hnames : syscallNames mixedPolicy = syscallNames shuffledPolicy := by decide +kernel
  refine ⟨hnames, ?_⟩
  rcases @compile_same_names { resolver := some byLength } _ harch hemitter _ _ hnames with
    ⟨line, -, name, -, hfail, -⟩ | ⟨c, c', hc, hc', heval, hnumbers, -⟩
  · have hroom : (numbersOf byLength (mixedPolicy.lines.map classify)).card ≤
        Allowlist.maxRules := by decide +kernel
    obtain ⟨c, hc, -⟩ := compileFor_of_names hroom (.ofPlatform Arch.host .x8664)
    simp only [compile, harch, hemitter] at hfail
    exact absurd (hc.symm.trans hfail) (by simp)
  · exact ⟨c, c', hc, hc', heval, hnumbers⟩

end SyscallFilter
