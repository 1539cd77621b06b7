import SyscallFilter.Proofs.Compilation

/-! How a compilation in the linear form can fail. The bound on the rules of an allowlist leaves
    room for the instructions around them, so the filter is never too long and emitting it never
    fails. A name that is resolved to a negative number is passed over before it reaches the
    allowlist, so the allowlist never refuses a number for its sign. What is left are two ways to
    fail:

        read     the source has a fault, behind lines that were all taken in
        rule     a line asks for one number more than there is room for -/

namespace SyscallFilter

open Policy

/-! ### Room for every allowlist -/

/-- What it means that an allowlist fits into a filter in the linear form. -/
structure Emit.Fits (p : Allowlist) : Prop where
  length : (linear p).length = 5 + 2 * p.size + (if p.arch.refusesX32 then 2 else 0)
  bounded : (linear p).length ≤ 4096
  emitted : ∃ f, Emitter.linear.emit p = .ok f ∧ f.length = (linear p).length

theorem Emit.fits_of_sound {p : Allowlist} (h : p.Sound) : Fits p where
  length := length_linear p
  bounded := length_linear_le h
  emitted := by
    obtain ⟨f, hf, hsize, -⟩ := emit_linear h
    exact ⟨f, hf, hsize⟩

/-! ### Lines that are not taken in -/

variable {resolver : Resolver}

/-- No line asks for a call with a negative number. -/
theorem nonneg_of_request {content : Content} {number : Int} {name : Bytes}
    (h : content.request? resolver = some (number, name)) : 0 ≤ number := by
  obtain ⟨-, hu, rfl⟩ := Content.request?_eq_some.mp h
  simp only [Resolution.isUnresolved, Bool.or_eq_false_iff, decide_eq_false_iff_not] at hu
  exact Int.not_lt.mp hu.2

namespace Draft

/-- A line that is not taken in asks for a call that finds the allowlist full. -/
theorem full_of_add_eq_error {d : Draft} {line : Line} {e : CompileError}
    (h : d.add resolver line = .error e) :
    ∃ number name, line.content.request? resolver = some (number, name) ∧
      d.allowlist.answer number name = .error (.full name) ∧
      e = .rule line.number name (.full name) := by
  obtain ⟨number, name, cause, hreq, hadd, rfl⟩ := add_eq_error h
  have hnonneg := nonneg_of_request hreq
  refine ⟨number, name, hreq, ?_⟩
  rcases Allowlist.add_cases d.allowlist number name with
    ⟨hneg, -⟩ | ⟨n, -, ⟨-, ha⟩ | ⟨-, -, ha⟩ | ⟨-, -, ha⟩⟩
  · omega
  · simp [Allowlist.answer, ha] at hadd
  · obtain rfl : Allowlist.AddError.full name = cause := by simpa [Allowlist.answer, ha] using hadd
    exact ⟨hadd, rfl⟩
  · simp [Allowlist.answer, ha] at hadd

/-- Lines that are not all taken in hold one that finds the allowlist full, behind the calls of the
    lines before it. -/
theorem full_of_addAll_eq_error {d d' : Draft} {lines : List Line} {e : CompileError}
    (h : addAll resolver d lines = (d', some e)) :
    ∃ before line after number name, lines = before ++ line :: after ∧
      line.content.request? resolver = some (number, name) ∧
      (d.allowlist.addAll (requests resolver (before.map (·.content)))).answer number name =
        .error (.full name) ∧
      e = .rule line.number name (.full name) := by
  induction lines generalizing d with
  | nil => exact absurd (congrArg Prod.snd h) (by simp [addAll])
  | cons line rest ih =>
    rw [addAll] at h
    cases hadd : d.add resolver line with
    | error e' =>
      rw [hadd] at h
      obtain rfl : e' = e := Option.some.inj (Prod.mk.inj h).2
      obtain ⟨number, name, hreq, hfull, he⟩ := full_of_add_eq_error hadd
      exact ⟨[], line, rest, number, name, rfl, hreq, hfull, he⟩
    | ok next =>
      rw [hadd] at h
      obtain ⟨before, line', after, number, name, rfl, hreq, hfull, he⟩ := ih h
      refine ⟨line :: before, line', after, number, name, rfl, hreq, ?_, he⟩
      rw [List.map_cons, requests_cons, Allowlist.addAll_append, ← allowlist_add hadd]
      exact hfull

end Draft

/-! ### Compilations -/

/-- The ways in which a compilation in the linear form can end, when its source delivers `lines` and
    then `answer`. -/
inductive LinearEnding (target : Arch) (resolver : Resolver) (lines : List Line)
    (answer : ReadError) : Except CompileError Compilation → Prop where
  | result (c : Compilation) (ended : answer = .endOfInput) :
    LinearEnding target resolver lines answer (.ok c)
  | read (k : Nat) (fault : Fault) (failed : answer = .atLine k fault) :
    LinearEnding target resolver lines answer (.error (.read (.atLine k fault)))
  | full (before : List Line) (line : Line) (after : List Line) (number : Int) (name : Bytes)
    (split : lines = before ++ line :: after)
    (asks : line.content.request? resolver = some (number, name))
    (refused : ((Allowlist.empty target).addAll
      (requests resolver (before.map (·.content)))).answer number name = .error (.full name))
    (size : ((Allowlist.empty target).addAll
      (requests resolver (before.map (·.content)))).size = 2044) :
    LinearEnding target resolver lines answer (.error (.rule line.number name (.full name)))

theorem compileFor_linearEnding (target : Arch) (resolver : Resolver) (source : Source) :
    LinearEnding target resolver (readLines source).1 (readLines source).2
      (compileFor target .linear resolver source).outcome := by
  have hempty := Allowlist.sound_empty target
  unfold compileFor
  rcases readLines source with ⟨lines, answer⟩
  rcases hrun : Draft.addAll resolver { allowlist := .empty target } lines with ⟨draft, _ | e⟩
  · cases answer with
    | atLine k fault =>
      simp only [hrun]
      exact .read k fault rfl
    | endOfInput =>
      have hsound : draft.allowlist.Sound := by
        rw [Draft.allowlist_addAll hrun]
        exact hempty.addAll _
      obtain ⟨f, hf, -⟩ := (Emit.fits_of_sound hsound).emitted
      simp only [hrun, Draft.finish, hf]
      exact .result _ rfl
  · obtain ⟨before, line, after, number, name, rfl, hreq, hfull, rfl⟩ :=
      Draft.full_of_addAll_eq_error hrun
    have hserves := (hempty.addAll (requests resolver (before.map (·.content)))).serves number name
    simp only [hrun]
    exact .full before line after number name rfl hreq hfull (hserves.full.mp hfull).2.2

/-- Every allowlist that calls can build fits into a filter in the linear form. So a compilation in
    this form has a result, or the source has a fault, or the allowlist is full; that it ends with a
    negative number or with a filter that cannot be emitted never happens. -/
theorem compile_linearEnding {config : Config} {target : Arch}
    (harch : Arch.lookup config.arch = .ok target)
    (hemitter : Emitter.ofName config.emitter = .ok .linear) :
    (∀ (a : Arch) (calls : List (Int × Bytes)), Emit.Fits ((Allowlist.empty a).addAll calls)) ∧
    ∀ source : Source,
      LinearEnding target (config.resolver.getD target.resolve) (readLines source).1
        (readLines source).2 (compile source config).outcome ∧
      (∀ cause, (compile source config).outcome ≠ .error (.emit cause)) ∧
      ∀ line name number name',
        (compile source config).outcome ≠ .error (.rule line name (.negative number name')) := by
  refine ⟨fun a calls => Emit.fits_of_sound ((Allowlist.sound_empty a).addAll calls), ?_⟩
  intro source
  have hcompile : compile source config =
      compileFor target .linear (config.resolver.getD target.resolve) source := by
    simp only [compile, harch, hemitter]
  have hending := compileFor_linearEnding target (config.resolver.getD target.resolve) source
  rw [hcompile]
  refine ⟨hending, ?_, ?_⟩
  · intro cause hemit
    rw [hemit] at hending
    cases hending
  · intro line name number name' hnegative
    rw [hnegative] at hending
    cases hending

/-- Resolves no name: it gives a negative number, or another one beside a failure. -/
def neverResolves : Resolver := fun name =>
  if name.length % 2 = 0 then ⟨-5, none⟩ else ⟨name.length, some (utf8 "no such call")⟩

/-- A source that fails in the middle of its third line. -/
def brokenSource : Source :=
  [{ data := utf8 "read\nchmod" },
    { data := utf8 "\nwr", fault := some (.failure (utf8 "input/output error")) }]

theorem compile_linearEnding_brokenSource :
    Arch.lookup [] = .ok (.ofPlatform Arch.host .x8664) ∧ Emitter.ofName [] = .ok .linear ∧
    (compile brokenSource { resolver := some neverResolves }).outcome =
      .error (.read (.atLine 3 (.failure (utf8 "input/output error")))) := by
  have harch : Arch.lookup [] = .ok (.ofPlatform Arch.host .x8664) :=
    Arch.lookup_host (by decide +kernel)
  have hemitter : Emitter.ofName [] = .ok .linear := rfl
  have hread : readLines brokenSource = (numbered 0 [utf8 "read\n", utf8 "chmod\n"],
      .atLine 3 (.failure (utf8 "input/output error"))) := by
    rw [Reader.readLines_eq_read]
    decide +kernel
  have hnone : ∀ line ∈ numbered 0 [utf8 "read\n", utf8 "chmod\n"],
      line.content.request? neverResolves = none := by
    decide +kernel
  have h := ((@compile_linearEnding { resolver := some neverResolves } _ harch hemitter).2
    brokenSource).1
  refine ⟨harch, hemitter, ?_⟩
  simp only [hread] at h
  generalize (compile brokenSource { resolver := some neverResolves }).outcome = outcome at h ⊢
  cases h with
  | result c ended => exact absurd ended (by simp)
  | read k fault failed => rw [failed]
  | full before line after number name split asks =>
    have hline : line ∈ numbered 0 [utf8 "read\n", utf8 "chmod\n"] := by
      rw [split]
      exact List.mem_append_right before List.mem_cons_self
    exact absurd ((hnone line hline).symm.trans asks) (by simp)

end SyscallFilter
