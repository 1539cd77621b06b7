import SyscallFilter.Compile
import SyscallFilter.Proofs.LinearForm
import SyscallFilter.Proofs.Lines
import SyscallFilter.Proofs.Tables

/-! What a compiled policy allows. A line asks for a call when it names one that the resolver knows;
    nothing else about the line matters to the rules, so the allowlist of a policy is the one built
    from what its lines ask for, in order. With the target's own table there is room for all of
    them, and the filter in the linear form allows exactly the calls whose numbers stand in the
    table next to a name of the policy.

        text ──▶ lines ──▶ requests ──▶ allowlist ──▶ linear form ──▶ verdicts -/

namespace SyscallFilter

open Policy

/-! ### Requests -/

/-- The call that a line asks for: its number and its name. -/
def Policy.Content.request? (resolver : Resolver) : Content → Option (Int × Bytes)
  | .blank => none
  | .comment => none
  | .syscall name =>
    if (resolver name).isUnresolved then none else some ((resolver name).number, name)

/-- The calls that lines ask for, in order. -/
def requests (resolver : Resolver) (contents : List Content) : List (Int × Bytes) :=
  contents.filterMap (Content.request? resolver)

theorem requests_cons (resolver : Resolver) (content : Content) (rest : List Content) :
    requests resolver (content :: rest) =
      requests resolver [content] ++ requests resolver rest := by
  rw [requests, requests, requests, ← List.filterMap_append, List.singleton_append]

/-- A line asks for a call when it names it and the name is resolved to the call's number. -/
theorem Policy.Content.request?_eq_some {resolver : Resolver} {content : Content} {number : Int}
    {name : Bytes} : content.request? resolver = some (number, name) ↔
      content = .syscall name ∧ (resolver name).isUnresolved = false ∧
        (resolver name).number = number := by
  cases content with
  | blank => simp [request?]
  | comment => simp [request?]
  | syscall other =>
    simp only [request?, Content.syscall.injEq]
    constructor
    · intro h
      split at h
      · exact absurd h (by simp)
      · next hu =>
        obtain ⟨rfl, rfl⟩ := Prod.mk.inj (Option.some.inj h)
        exact ⟨rfl, eq_false_of_ne_true hu, rfl⟩
    · rintro ⟨rfl, hu, rfl⟩
      rw [hu]
      rfl

theorem mem_requests {resolver : Resolver} {contents : List Content} {number : Int} {name : Bytes} :
    (number, name) ∈ requests resolver contents ↔ .syscall name ∈ contents ∧
      (resolver name).isUnresolved = false ∧ (resolver name).number = number := by
  simp only [requests, List.mem_filterMap, Content.request?_eq_some]
  constructor
  · rintro ⟨content, hmem, rfl, hname⟩
    exact ⟨hmem, hname⟩
  · rintro ⟨hmem, hname⟩
    exact ⟨_, hmem, rfl, hname⟩

theorem number_of_request {resolver : Resolver} {contents : List Content} :
    ∀ call ∈ requests resolver contents, call.1 = (resolver call.2).number := by
  rintro ⟨number, name⟩ hcall
  exact (mem_requests.mp hcall).2.2.symm

/-- The allowlist with the calls that the lines of a text ask for. -/
def allowlistOf (target : Arch) (resolver : Resolver) (text : Bytes) : Allowlist :=
  (Allowlist.empty target).addAll (requests resolver (text.lines.map classify))

namespace Draft

variable {resolver : Resolver}

/-- All that taking in a line can do. -/
theorem add_cases (d : Draft) (resolver : Resolver) (line : Line) :
    (line.content = .blank ∧ d.add resolver line = .ok d.addBlank) ∨
    (line.content = .comment ∧ d.add resolver line = .ok d.addComment) ∨
    ∃ name, line.content = .syscall name ∧
      (((resolver name).isUnresolved = true ∧
        d.add resolver line = .ok (d.addUnresolved line name)) ∨
      ((resolver name).isUnresolved = false ∧
        ((∃ cause, d.allowlist.answer (resolver name).number name = .error cause ∧
          d.add resolver line = .error (.rule line.number name cause)) ∨
        (∃ p, d.allowlist.add (resolver name).number name = (.ok false, p) ∧
          d.add resolver line = .ok (d.addDuplicate p line name)) ∨
        (∃ p, d.allowlist.add (resolver name).number name = (.ok true, p) ∧
          d.add resolver line = .ok (d.addRule p line name (resolver name).number))))) := by
  unfold add
  cases line.content with
  | blank => exact Or.inl ⟨rfl, rfl⟩
  | comment => exact Or.inr (Or.inl ⟨rfl, rfl⟩)
  | syscall name =>
    refine Or.inr (Or.inr ⟨name, rfl, ?_⟩)
    simp only [addSyscall, Allowlist.answer]
    cases (resolver name).isUnresolved with
    | true => exact Or.inl ⟨rfl, rfl⟩
    | false =>
      refine Or.inr ⟨rfl, ?_⟩
      rcases d.allowlist.add (resolver name).number name with ⟨cause | _ | _, p⟩
      · exact Or.inl ⟨cause, rfl, rfl⟩
      · exact Or.inr (Or.inl ⟨p, rfl, rfl⟩)
      · exact Or.inr (Or.inr ⟨p, rfl, rfl⟩)

/-- A line that is taken in has its call added, if it asks for one. -/
theorem allowlist_add {d d' : Draft} {line : Line} (h : d.add resolver line = .ok d') :
    d'.allowlist = d.allowlist.addAll (requests resolver [line.content]) := by
  rcases add_cases d resolver line with ⟨hc, he⟩ | ⟨hc, he⟩ | ⟨name, hc, ⟨hu, he⟩ | ⟨hu, hrest⟩⟩
  · obtain rfl := Except.ok.inj (he.symm.trans h)
    rw [hc]
    rfl
  · obtain rfl := Except.ok.inj (he.symm.trans h)
    rw [hc]
    rfl
  · obtain rfl := Except.ok.inj (he.symm.trans h)
    simp [hc, requests, Content.request?, hu, Allowlist.addAll, addUnresolved]
  · have hreq : requests resolver [line.content] = [((resolver name).number, name)] := by
      simp [hc, requests, Content.request?, hu]
    rw [hreq, Allowlist.addAll, List.foldl_cons, List.foldl_nil, Allowlist.tryAdd]
    rcases hrest with ⟨cause, -, he⟩ | ⟨p, ha, he⟩ | ⟨p, ha, he⟩
    · exact absurd (he.symm.trans h) (by simp)
    · obtain rfl := Except.ok.inj (he.symm.trans h)
      rw [ha]
      rfl
    · obtain rfl := Except.ok.inj (he.symm.trans h)
      rw [ha]
      rfl

/-- A line that is not taken in asks for a call that cannot be added. -/
theorem add_eq_error {d : Draft} {line : Line} {e : CompileError}
    (h : d.add resolver line = .error e) :
    ∃ number name cause, line.content.request? resolver = some (number, name) ∧
      d.allowlist.answer number name = .error cause ∧ e = .rule line.number name cause := by
  rcases add_cases d resolver line with ⟨-, he⟩ | ⟨-, he⟩ | ⟨name, hc, ⟨-, he⟩ |
    ⟨hu, ⟨cause, ha, he⟩ | ⟨p, -, he⟩ | ⟨p, -, he⟩⟩⟩
  · exact absurd (he.symm.trans h) (by simp)
  · exact absurd (he.symm.trans h) (by simp)
  · exact absurd (he.symm.trans h) (by simp)
  · refine ⟨_, name, cause, ?_, ha, (Except.error.inj (he.symm.trans h)).symm⟩
    simp [hc, Content.request?, hu]
  · exact absurd (he.symm.trans h) (by simp)
  · exact absurd (he.symm.trans h) (by simp)

/-- Lines that are all taken in have their calls added, in order. -/
theorem allowlist_addAll : ∀ {d d' : Draft} {lines : List Line},
    addAll resolver d lines = (d', none) →
    d'.allowlist = d.allowlist.addAll (requests resolver (lines.map (·.content)))
  | _, _, [], h => by
    obtain ⟨rfl, -⟩ := Prod.mk.inj h
    rfl
  | d, _, line :: rest, h => by
    unfold addAll at h
    cases hadd : d.add resolver line with
    | error e => simp [hadd] at h
    | ok d' =>
      rw [hadd] at h
      rw [allowlist_addAll h, allowlist_add hadd, List.map_cons,
        requests_cons resolver line.content (rest.map _), Allowlist.addAll_append]

/-- Lines whose calls have numbers from a list that is not longer than the bound are all taken
    in. -/
theorem addAll_of_bounded {pool : List Nat} (hbound : pool.length ≤ Allowlist.maxRules) :
    ∀ {d : Draft} {lines : List Line}, d.allowlist.Sound → d.allowlist.numbers ⊆ pool →
    (∀ call ∈ requests resolver (lines.map (·.content)), ∃ n ∈ pool, call.1 = (n : Int)) →
    ∃ d', addAll resolver d lines = (d', none)
  | d, [], _, _, _ => ⟨d, rfl⟩
  | d, line :: rest, hsound, hsub, hpool => by
    rw [List.map_cons, requests_cons resolver] at hpool
    have hfirst := fun call hc => hpool call (List.mem_append_left _ hc)
    unfold addAll
    cases hadd : d.add resolver line with
    | error e =>
      -- The call of the line has a number from the list, so adding it does not fail.
      exfalso
      obtain ⟨number, name, cause, hreq, hfail, -⟩ := add_eq_error hadd
      obtain ⟨n, hn, hnumber⟩ := hfirst (number, name) (by simp [requests, hreq])
      obtain rfl : number = n := hnumber
      rw [Allowlist.answer] at hfail
      rcases Allowlist.add_of_bounded hsound hsub hbound hn name with ⟨-, ha⟩ | ⟨-, ha⟩
      · simp [ha] at hfail
      · simp [ha] at hfail
    | ok d' =>
      have hlist := allowlist_add hadd
      refine addAll_of_bounded hbound (hlist ▸ hsound.addAll _) ?_
        (fun call hc => hpool call (List.mem_append_right _ hc))
      intro m hm
      rw [hlist, Allowlist.mem_numbers_addAll hsound hsub hbound hfirst] at hm
      rcases hm with hm | ⟨name, hm⟩
      · exact hsub hm
      · obtain ⟨n, hn, he⟩ := hfirst _ hm
        exact Int.ofNat_inj.mp he ▸ hn

theorem finish_eq_ok {d : Draft} {emitter : Emitter} {c : Compilation}
    (h : d.finish emitter = .ok c) : c.allowlist = d.allowlist ∧
      emitter.emit d.allowlist = .ok c.filter ∧ c.stats.instructions = c.filter.length := by
  unfold finish at h
  split at h
  · exact absurd h (by simp)
  · next f hf =>
    obtain rfl := Except.ok.inj h
    exact ⟨rfl, hf, rfl⟩

end Draft

/-! ### Policies -/

/-- What a compilation with a result went through. -/
theorem compile_eq_ok {source : Source} {config : Config} {c : Compilation}
    (h : (compile source config).outcome = .ok c) :
    ∃ target emitter lines draft, Arch.lookup config.arch = .ok target ∧
      Emitter.ofName config.emitter = .ok emitter ∧ readLines source = (lines, .endOfInput) ∧
      Draft.addAll (config.resolver.getD target.resolve) { allowlist := .empty target } lines =
        (draft, none) ∧ draft.finish emitter = .ok c := by
  unfold compile at h
  cases harch : Arch.lookup config.arch with
  | error cause => simp [harch] at h
  | ok target =>
    cases hemitter : Emitter.ofName config.emitter with
    | error cause => simp [harch, hemitter] at h
    | ok emitter =>
      simp only [harch, hemitter, compileFor] at h
      generalize hread : readLines source = answers at h
      obtain ⟨lines, answer⟩ := answers
      generalize hrun : Draft.addAll (config.resolver.getD target.resolve)
        { allowlist := .empty target } lines = run at h
      obtain ⟨draft, problem⟩ := run
      cases problem with
      | some e => simp at h
      | none =>
        cases answer with
        | atLine k f => simp at h
        | endOfInput => exact ⟨target, emitter, lines, draft, rfl, rfl, rfl, hrun, h⟩

/-- A compilation is for the target that was asked for. -/
theorem arch_of_compile {source : Source} {config : Config} {c : Compilation}
    (h : (compile source config).outcome = .ok c) :
    Arch.lookup config.arch = .ok c.allowlist.arch := by
  obtain ⟨target, emitter, lines, draft, harch, -, -, hrun, hfinish⟩ := compile_eq_ok h
  rw [harch, (Draft.finish_eq_ok hfinish).1, Draft.allowlist_addAll hrun, Allowlist.arch_addAll]
  rfl

/-- A text is compiled by taking in its lines. -/
theorem compileFor_ofBytes (target : Arch) (emitter : Emitter) (resolver : Resolver)
    (text : Bytes) :
    compileFor target emitter resolver (.ofBytes text) =
      ⟨(Draft.addAll resolver { allowlist := .empty target } (numbered 0 text.lines)).1.log.reverse,
        match Draft.addAll resolver { allowlist := .empty target } (numbered 0 text.lines) with
        | (draft, none) => draft.finish emitter
        | (_, some e) => .error e⟩ := by
  simp only [compileFor, readLines_ofBytes]
  rcases Draft.addAll resolver { allowlist := .empty target } (numbered 0 text.lines) with
    ⟨draft, _ | e⟩
  · rfl
  · rfl

/-- A text whose calls have numbers from a list that is not longer than the bound is compiled to the
    linear form of its allowlist. -/
theorem compileFor_linear {resolver : Resolver} {text : Bytes} {pool : List Nat}
    (hbound : pool.length ≤ Allowlist.maxRules)
    (hpool : ∀ call ∈ requests resolver (text.lines.map classify), ∃ n ∈ pool, call.1 = (n : Int))
    (target : Arch) :
    ∃ c, (compileFor target .linear resolver (.ofBytes text)).outcome = .ok c ∧
      c.allowlist = allowlistOf target resolver text ∧
      ∀ call, c.filter.evaluate call = .ok (Emit.linearVerdict c.allowlist call) := by
  have hsound := Allowlist.sound_empty target
  have hcontents := contents_numbered 0 text.lines
  obtain ⟨draft, hrun⟩ : ∃ d', Draft.addAll resolver { allowlist := .empty target }
      (numbered 0 text.lines) = (d', none) :=
    Draft.addAll_of_bounded hbound hsound (List.nil_subset pool) (hcontents.symm ▸ hpool)
  have hlist := Draft.allowlist_addAll hrun
  rw [hcontents] at hlist
  obtain ⟨f, hf, -, heval⟩ := Emit.emit_linear (hlist.symm ▸ hsound.addAll _)
  refine ⟨⟨draft.allowlist, f, draft.unresolved.reverse,
    { draft.stats with instructions := f.length }⟩, ?_, hlist, heval⟩
  simp only [compileFor_ofBytes, hrun, Draft.finish, hf]

/-- The calls that lines ask for from a target's own table. -/
theorem mem_requests_resolve {target : Arch} (h : target.table.WellFormed)
    {contents : List Content} {call : Int × Bytes} :
    call ∈ requests target.resolve contents ↔
      ∃ (n : Nat) (name : Bytes), call = ((n : Int), name) ∧ .syscall name ∈ contents ∧
        (n, name) ∈ target.table := by
  have hrequest : ∀ content : Content, content.request? target.resolve = some call ↔
      ∃ (n : Nat) (name : Bytes), call = ((n : Int), name) ∧ content = .syscall name ∧
        (n, name) ∈ target.table := by
    intro content
    cases content with
    | blank => simp [Content.request?]
    | comment => simp [Content.request?]
    | syscall name =>
      simp only [← SyscallTable.numberOf?_eq_some h.distinct]
      cases hn : target.table.numberOf? name with
      | none => simp [Content.request?, Arch.resolve, Arch.number, hn, Resolution.isUnresolved]
      | some n =>
        simp [Content.request?, Arch.resolve, Arch.number, hn, Resolution.isUnresolved, eq_comm]
  simp only [requests, List.mem_filterMap, hrequest]
  constructor
  · rintro ⟨content, hmem, n, name, rfl, rfl, htable⟩
    exact ⟨n, name, rfl, hmem, htable⟩
  · rintro ⟨n, name, rfl, hmem, htable⟩
    exact ⟨_, hmem, n, name, rfl, rfl, htable⟩

/-- What lines ask for from a target's own table has its numbers. -/
theorem number_of_mem_requests {target : Arch} (h : target.table.WellFormed)
    {contents : List Content} :
    ∀ call ∈ requests target.resolve contents, ∃ n ∈ target.table.numbers, call.1 = (n : Int) := by
  intro call hcall
  obtain ⟨n, name, rfl, -, htable⟩ := (mem_requests_resolve h).mp hcall
  exact ⟨n, List.mem_map_of_mem htable, rfl⟩

/-- Whether a text names the call of a target with a number: one of its lines, without its newline,
    is not empty, is not a comment and stands in the target's table next to the number. -/
def Policy.Names (text : Bytes) (target : Arch) (number : Int) : Prop :=
  ∃ line ∈ text.lines, line.dropNewline ≠ [] ∧
    line.dropNewline.head? ≠ some (Bytes.ascii '#') ∧
    ∃ entry ∈ target.table, (entry.1 : Int) = number ∧ entry.2 = line.dropNewline

instance (text : Bytes) (target : Arch) (number : Int) :
    Decidable (Policy.Names text target number) :=
  inferInstanceAs (Decidable (∃ line ∈ text.lines, _ ∧ _ ∧ ∃ entry ∈ target.table, _ ∧ _))

/-- The rules of a policy have the numbers of the calls that it names. -/
theorem mem_numbers_allowlistOf {target : Arch} (h : target.table.WellFormed) (text : Bytes)
    (n : Nat) :
    n ∈ (allowlistOf target target.resolve text).numbers ↔ Policy.Names text target n := by
  rw [allowlistOf, Allowlist.mem_numbers_addAll (Allowlist.sound_empty target) (List.nil_subset _)
    h.bounded (number_of_mem_requests h)]
  constructor
  · rintro (hn | ⟨name, hcall⟩)
    · exact absurd hn List.not_mem_nil
    · obtain ⟨m, name', he, hsyscall, htable⟩ := (mem_requests_resolve h).mp hcall
      obtain ⟨hnumber, rfl⟩ := Prod.mk.inj he
      obtain ⟨line, hline, hclass⟩ := List.mem_map.mp hsyscall
      obtain ⟨rfl, hne, hcomment⟩ := classify_eq_syscall.mp hclass
      exact ⟨line, hline, hne, hcomment, (m, line.dropNewline), htable, hnumber.symm, rfl⟩
  · rintro ⟨line, hline, hne, hcomment, ⟨m, name⟩, htable, hnumber, rfl⟩
    obtain rfl : m = n := Int.ofNat_inj.mp hnumber
    refine Or.inr ⟨line.dropNewline, (mem_requests_resolve h).mpr ⟨m, _, rfl, ?_, htable⟩⟩
    exact List.mem_map.mpr ⟨line, hline, classify_eq_syscall.mpr ⟨rfl, hne, hcomment⟩⟩

/-- The linear form of a policy's allowlist allows the calls that the policy names. -/
theorem linearVerdict_allowlistOf {target : Arch} (h : target.table.WellFormed) (text : Bytes)
    (call : Call) :
    Emit.linearVerdict (allowlistOf target target.resolve text) call =
      if call.arch = target.auditId ∧ Policy.Names text target call.number.toInt then Verdict.allow
      else Verdict.killProcess := by
  have hnumbers := mem_numbers_allowlistOf h text
  have hsmall : ∀ n ∈ (allowlistOf target target.resolve text).numbers, n < 0x40000000 := by
    intro n hn
    obtain ⟨-, -, -, -, entry, htable, he, -⟩ := (hnumbers n).mp hn
    exact Int.ofNat_inj.mp he ▸ h.small entry htable
  have hnames : (∃ n ∈ (allowlistOf target target.resolve text).numbers,
      (n : Int) = call.number.toInt) ↔ Policy.Names text target call.number.toInt := by
    constructor
    · rintro ⟨n, hn, he⟩
      exact he ▸ (hnumbers n).mp hn
    · intro hnamed
      obtain ⟨-, -, -, -, entry, -, he, -⟩ := id hnamed
      exact ⟨entry.1, (hnumbers entry.1).mpr (he.symm ▸ hnamed), he⟩
  have harch : (allowlistOf target target.resolve text).arch = target := Allowlist.arch_addAll _ _
  simp only [Emit.linearVerdict_of_small hsmall, hnames, harch]

/-- Every text is compiled for every target, and the filter allows the calls that the text names and
    kills the process on all others. -/
theorem compile_evaluate {arch emitter : Bytes} {target : Arch}
    (harch : Arch.lookup arch = .ok target) (hemitter : Emitter.ofName emitter = .ok .linear)
    (text : Bytes) :
    ∃ c, (compile (.ofBytes text) { arch := arch, emitter := emitter }).outcome = .ok c ∧
      ∀ call : Call, c.filter.evaluate call = .ok
        (if call.arch = target.auditId ∧ Policy.Names text target call.number.toInt then 0x7fff0000
        else 0x80000000) := by
  have hwf := Arch.wellFormed_of_lookup harch
  obtain ⟨c, hc, hlist, heval⟩ :=
    compileFor_linear hwf.bounded (number_of_mem_requests hwf) target
  refine ⟨c, ?_, fun call => ?_⟩
  · simp only [compile, harch, hemitter]
    exact hc
  · rw [heval, hlist, linearVerdict_allowlistOf hwf]
    rfl

theorem compile_evaluate_read :
    Arch.lookup [] = .ok (.ofPlatform Arch.host .x8664) ∧ Emitter.ofName [] = .ok .linear ∧
    ∃ c, (compile (.ofBytes (utf8 "# open\nread")) { arch := [], emitter := [] }).outcome = .ok c ∧
      c.filter.evaluate { number := 0, arch := 0xc000003e } = .ok 0x7fff0000 ∧
      c.filter.evaluate { number := 2, arch := 0xc000003e } = .ok 0x80000000 := by
  have harch : Arch.lookup [] = .ok (.ofPlatform Arch.host .x8664) :=
    Arch.lookup_host (by decide +kernel)
  have hemitter : Emitter.ofName [] = .ok .linear := rfl
  obtain ⟨c, hc, heval⟩ := compile_evaluate harch hemitter (utf8 "# open\nread")
  refine ⟨harch, hemitter, c, hc, ?_, ?_⟩
  · rw [heval, if_pos (by decide +kernel)]
  · rw [heval, if_neg (by decide +kernel)]

end SyscallFilter
