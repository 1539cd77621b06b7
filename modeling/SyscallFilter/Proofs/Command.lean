import SyscallFilter.Proofs.Compilation
import SyscallFilter.Proofs.Replacement
import SyscallFilter.Tool.Compiler

/-! The compiler's command writes the whole output or nothing. Up to the last step it only reads the
    tree, and the last step replaces one file or fails. So a run that fails leaves the tree as it
    was, whatever the disk did and whichever writes to the error stream were lost, and a run that
    does not fail leaves all but the output as it was. -/

namespace SyscallFilter.Tool.Compiler

open SyscallFilter Output Files Policy

/-! ### What is read -/

/-- A source that is compiled was read to its end. -/
theorem failure_of_compile {input : Bytes} {r : Reading} {config : Config} {c : Compilation}
    (h : (compile (sourceOf input r) config).outcome = .ok c) : r.failure = none := by
  cases hfailure : r.failure with
  | none => rfl
  | some cause =>
    obtain ⟨-, -, lines, -, -, -, hread, -⟩ := compile_eq_ok h
    obtain ⟨number, hfault⟩ := read_interrupted
      (f := .failure (pathMessage "read" input cause)) rfl 0 [] r.content
    have hevents : (sourceOf input r).events 0 = r.content.map .byte ++
        [.fault (.failure (pathMessage "read" input cause))] := by
      simp [sourceOf, hfailure, Source.events, eventsOf]
    rw [Reader.readLines_eq_read, hevents] at hread
    rw [hread] at hfault
    exact absurd hfault (by simp)

/-- What is read to its end is the content of a file. -/
theorem file_of_readFile {d : Disk} {t : Tree} {path : Bytes} {r : Reading}
    (h : d.readFile t path = .ok r) (hwhole : r.failure = none) :
    t.lookup path = .ok (.file r.content) := by
  unfold Disk.readFile Tree.readFile at h
  cases hopening : d.opening with
  | some cause => simp [hopening] at h
  | none =>
    cases hlookup : t.lookup path with
    | error cause => simp [hopening, hlookup, Except.map] at h
    | ok n =>
      simp only [hopening, hlookup, Except.map] at h
      cases hreading : d.reading with
      | some fault =>
        simp only [hreading, Except.ok.injEq] at h
        rw [← h] at hwhole
        exact absurd hwhole (by simp)
      | none =>
        simp only [hreading, Except.ok.injEq] at h
        rw [← h] at hwhole ⊢
        cases n with
        | directory => exact absurd hwhole (by simp [Node.reading])
        | file content => rfl

/-- A file of a disk that reports no loss has all that was written. -/
theorem bytes_of_writeBytecode {d : Disk} {path : Bytes} {c : Compilation} {sink : Sink}
    (h : c.writeBytecode (d.sink path) = (none, sink)) : sink.bytes = c.bytecode := by
  unfold Compilation.writeBytecode Disk.sink at h
  cases hwriting : d.writing with
  | none =>
    rw [hwriting] at h
    obtain ⟨-, rfl⟩ := Prod.mk.inj h
    simp [Sink.write, Sink.bytes]
  | some fault =>
    obtain ⟨room, cause⟩ := fault
    rw [hwriting] at h
    obtain ⟨hloss, rfl⟩ := Prod.mk.inj h
    have hroom : c.bytecode.length ≤ room := by
      by_contra hfull
      simp [Sink.write, hfull] at hloss
    simp [Sink.write, Sink.bytes, Nat.min_eq_right hroom]

/-! ### What the command does -/

section Preparing

variable {o : Options} {input : Bytes} {r : Reading} (s : Surroundings)

theorem run_log (o : Options) (entries : List Log.Entry) :
    (Surroundings.system.log o entries).run s =
      ((), { s with errors := postLog o.threshold entries s.errors }) := rfl

theorem run_replace (path : Bytes) (w : Writer) :
    (Surroundings.system.replace path w).run s = ((s.disk.replace s.tree path w).1,
      { s with tree := (s.disk.replace s.tree path w).2 }) := rfl

theorem prepare_of_error {e : CompileError} (h : (reportOf o input r).outcome = .error e) :
    (Surroundings.system.prepare o input r).run s = (.error (.compile e),
      { s with errors := postLog o.threshold (reportOf o input r).log s.errors }) := by
  simp only [System.prepare, h]
  rw [run_bind_of_run (run_log s o _)]
  rfl

theorem prepare_of_closing {c : Compilation} {cause : FileError}
    (h : (reportOf o input r).outcome = .ok c) (hclosing : r.closing = some cause) :
    (Surroundings.system.prepare o input r).run s = (.error (.close input cause),
      { s with errors := postLog o.threshold (reportOf o input r).log s.errors }) := by
  simp only [System.prepare, h, hclosing]
  rw [run_bind_of_run (run_log s o _)]
  rfl

/-- The error stream behind the log of a compilation. -/
def loggedTo (o : Options) (input : Bytes) (r : Reading) (c : Compilation) (errors : Sink) : Sink :=
  postLog o.threshold [statsEntry input c.stats]
    (postLog o.threshold (reportOf o input r).log errors)

/-- A source that is compiled comes to its compilation if the listing is complete. -/
theorem prepare_of_ok {c : Compilation} (h : (reportOf o input r).outcome = .ok c)
    (hclosing : r.closing = none) :
    (Surroundings.system.prepare o input r).run s =
      ((c.writeListing (loggedTo o input r c s.errors)).1.elim (.ok c) fun e =>
          .error (.listing e),
        { s with errors := (c.writeListing (loggedTo o input r c s.errors)).2 }) := by
  have htell : (Surroundings.system.tell c.writeListing).run
      { s with errors := loggedTo o input r c s.errors } =
        ((c.writeListing (loggedTo o input r c s.errors)).1,
          { s with errors := (c.writeListing (loggedTo o input r c s.errors)).2 }) := rfl
  simp only [System.prepare, h, hclosing]
  rw [run_bind_of_run (run_log s o _), run_bind_of_run (run_log _ o _)]
  refine (run_bind_of_run htell _).trans ?_
  cases (c.writeListing (loggedTo o input r c s.errors)).1 with
  | none => rfl
  | some e => rfl

/-- Preparing an input changes nothing but the error stream. -/
theorem prepare_cases (o : Options) (input : Bytes) (r : Reading) :
    (∃ e errors, (Surroundings.system.prepare o input r).run s = (.error e, { s with errors })) ∨
    ∃ c errors, (reportOf o input r).outcome = .ok c ∧
      (Surroundings.system.prepare o input r).run s = (.ok c, { s with errors }) := by
  cases hc : (reportOf o input r).outcome with
  | error e => exact Or.inl ⟨_, _, prepare_of_error s hc⟩
  | ok c =>
    cases hclosing : r.closing with
    | some cause => exact Or.inl ⟨_, _, prepare_of_closing s hc hclosing⟩
    | none =>
      rw [prepare_of_ok s hc hclosing]
      cases (c.writeListing (loggedTo o input r c s.errors)).1 with
      | none => exact Or.inr ⟨c, _, rfl, rfl⟩
      | some e => exact Or.inl ⟨_, _, rfl⟩

theorem prepareFile_of_error {d : Disk} {t : Tree} {cause : FileError}
    (h : d.readFile t input = .error cause) (errors : Sink) :
    (Surroundings.system.prepareFile o input).run ⟨t, d, errors⟩ =
      (.error (.source input cause), ⟨t, d, errors⟩) := by
  have hread : (Surroundings.system.readFile input).run ⟨t, d, errors⟩ =
      (.error cause, ⟨t, d, errors⟩) := congrArg (·, _) h
  rw [System.prepareFile, run_bind_of_run hread]
  rfl

theorem prepareFile_of_ok {d : Disk} {t : Tree} (h : d.readFile t input = .ok r) (errors : Sink) :
    (Surroundings.system.prepareFile o input).run ⟨t, d, errors⟩ =
      (Surroundings.system.prepare o input r).run ⟨t, d, errors⟩ := by
  have hread : (Surroundings.system.readFile input).run ⟨t, d, errors⟩ = (.ok r, ⟨t, d, errors⟩) :=
    congrArg (·, _) h
  rw [System.prepareFile, run_bind_of_run hread]

/-- An input file that is compiled is compiled from its content, and nothing but the error stream is
    changed. -/
theorem prepareFile_cases (o : Options) (input : Bytes) :
    (∃ e errors, (Surroundings.system.prepareFile o input).run s = (.error e, { s with errors })) ∨
    ∃ content c errors, s.tree.lookup input = .ok (.file content) ∧
      (compile (.ofBytes content) { arch := o.arch, emitter := o.emitter }).outcome = .ok c ∧
      (Surroundings.system.prepareFile o input).run s = (.ok c, { s with errors }) := by
  obtain ⟨t, d, errors⟩ := s
  cases hfile : d.readFile t input with
  | error cause => exact Or.inl ⟨_, errors, prepareFile_of_error hfile errors⟩
  | ok r =>
    rw [prepareFile_of_ok hfile]
    rcases prepare_cases ⟨t, d, errors⟩ o input r with ⟨e, errors, h⟩ | ⟨c, errors, hc, h⟩
    · exact Or.inl ⟨e, errors, h⟩
    · have hwhole := failure_of_compile hc
      have hsource : sourceOf input r = .ofBytes r.content := by
        rw [sourceOf, hwhole]
        rfl
      rw [reportOf, hsource] at hc
      exact Or.inr ⟨r.content, c, errors, file_of_readFile hfile hwhole, hc, h⟩

end Preparing

/-- Compiling a file fails and leaves the tree as it was, or puts the bytecode where the path of the
    output leads. -/
theorem compileFile_cases (o : Options) (input output : Bytes) (s : Surroundings) :
    (∃ e errors, (Surroundings.system.compileFile o input output).run s =
      (some e, { s with errors })) ∨
    ∃ content c place errors, s.tree.lookup input = .ok (.file content) ∧
      (compile (.ofBytes content) { arch := o.arch, emitter := o.emitter }).outcome = .ok c ∧
      (Surroundings.system.compileFile o input output).run s =
        (none, { s with tree := s.tree.insert place (.file c.bytecode), errors }) ∧
      s.tree.holdsBase place = false ∧
      (s.tree.insert place (.file c.bytecode)).locate output = .ok place := by
  unfold System.compileFile
  rcases prepareFile_cases s o input with ⟨e, errors, h⟩ | ⟨content, c, errors, hlookup, hc, h⟩
  · rw [run_bind_of_run h]
    exact Or.inl ⟨e, errors, rfl⟩
  · rw [run_bind_of_run h]
    simp only
    rw [run_bind_of_run (run_replace _ output _)]
    rcases s.disk.replace_cases s.tree output c.writeBytecode with
      ⟨e, hfail⟩ | ⟨temporary, sink, place, hw, hdone, hplace, hlocate⟩
    · rw [hfail]
      exact Or.inl ⟨.output e, errors, rfl⟩
    · rw [bytes_of_writeBytecode hw] at hdone hlocate
      rw [hdone]
      exact Or.inr ⟨content, c, place, _, hlookup, hc, rfl, hplace, hlocate⟩

/-- A run that fails and a run for help leave the tree as it was. Any other run leaves the bytecode
    of the input where the output leads, and the rest of the tree as it was. -/
theorem run_all_or_nothing (arguments : List Bytes) (s : Surroundings) :
    ((run arguments s).1 ≠ 0 → (run arguments s).2.tree = s.tree) ∧
    (Request.ofArguments arguments = .help →
      (run arguments s).1 = 0 ∧ (run arguments s).2.tree = s.tree) ∧
    ((run arguments s).1 = 0 → Request.ofArguments arguments ≠ .help →
      ∃ o input output content target c place,
        Request.ofArguments arguments = .compile o input output ∧
        s.tree.lookup input = .ok (.file content) ∧ Arch.lookup o.arch = .ok target ∧
        (compile (.ofBytes content) { arch := o.arch, emitter := o.emitter }).outcome = .ok c ∧
        (run arguments s).2.tree.locate output = .ok place ∧
        (run arguments s).2.tree.get? place = some (.file (c.filter.encode target.order)) ∧
        (run arguments s).2.tree.erase place = s.tree.erase place) := by
  unfold run System.command
  cases Request.ofArguments arguments with
  | help => exact ⟨fun hstatus => absurd rfl hstatus, fun _ => ⟨rfl, rfl⟩, fun _ h => absurd rfl h⟩
  | misuse mistake =>
    exact ⟨fun _ => rfl, nofun, fun hstatus => absurd (show 2 = 0 from hstatus) (by decide)⟩
  | compile o input output =>
    rcases compileFile_cases o input output s with
      ⟨e, errors, h⟩ | ⟨content, c, place, errors, hlookup, hc, h, hplace, hlocate⟩
    · simp only
      rw [run_bind_of_run h]
      exact ⟨fun _ => rfl, nofun, fun hstatus => absurd (show 1 = 0 from hstatus) (by decide)⟩
    · simp only
      rw [run_bind_of_run h]
      refine ⟨fun hstatus => absurd rfl hstatus, nofun, fun _ _ => ?_⟩
      refine ⟨o, input, output, content, c.allowlist.arch, c, place, rfl, hlookup,
        arch_of_compile hc, hc, hlocate, ?_, Tree.erase_insert s.tree place _⟩
      exact Tree.get?_insert_self hplace _

/-- Surroundings with nothing but a policy of one line, at the root and away from the base, on a
    disk that may fail to write. -/
def onePolicy (writing : Option (Nat × FileError)) : Surroundings where
  tree := { nodes := [([utf8 "in"], .file (utf8 "read"))], base := [utf8 "home"] }
  disk := { number := .ofNat, writing }

/-- A disk that is full after five bytes. -/
def full : Nat × FileError := (5, .other (utf8 "no space left on device"))

theorem run_all_or_nothing_onePolicy :
    ((run [utf8 "/in", utf8 "out"] (onePolicy none)).1 = 0 ∧
      ∃ c place,
        (compile (.ofBytes (utf8 "read")) { arch := Arch.host, emitter := utf8 "native" }).outcome =
          .ok c ∧
        (run [utf8 "/in", utf8 "out"] (onePolicy none)).2.tree.locate (utf8 "out") = .ok place ∧
        (run [utf8 "/in", utf8 "out"] (onePolicy none)).2.tree.get? place =
          some (.file (c.filter.encode .little))) ∧
    (run [utf8 "/in", utf8 "out"] (onePolicy (some full))).1 = 1 ∧
    (run [utf8 "/in", utf8 "out"] (onePolicy (some full))).2.tree =
      (onePolicy (some full)).tree := by
  have hrequest : Request.ofArguments [utf8 "/in", utf8 "out"] =
      .compile {} (utf8 "/in") (utf8 "out") := rfl
  have hlookup : (onePolicy none).tree.lookup (utf8 "/in") = .ok (.file (utf8 "read")) := by
    decide +kernel
  have hread : ∀ writing, (Surroundings.system.readFile (utf8 "/in")).run (onePolicy writing) =
      (.ok { content := utf8 "read" }, onePolicy writing) := by
    intro writing
    change (Disk.readFile _ (onePolicy none).tree _, _) = _
    rw [Disk.readFile, Tree.readFile, hlookup]
    rfl
  have hsource : sourceOf (utf8 "/in") { content := utf8 "read" } = .ofBytes (utf8 "read") := rfl
  have harch : Arch.lookup Arch.host = .ok (.ofPlatform Arch.host .x8664) :=
    Arch.lookup_host (by decide +kernel)
  have hemitter : Emitter.ofName (utf8 "native") = .ok .linear := by decide +kernel
  obtain ⟨hstatus, hfailed⟩ : (run [utf8 "/in", utf8 "out"] (onePolicy none)).1 = 0 ∧
      (run [utf8 "/in", utf8 "out"] (onePolicy (some full))).1 = 1 := by
    simp only [run, System.command, hrequest, System.compileFile, System.prepareFile, bind_assoc,
      run_bind_of_run (hread _), System.prepare, reportOf, hsource, compile, harch, hemitter,
      compileFor_ofBytes]
    decide +kernel
  refine ⟨⟨hstatus, ?_⟩, hfailed, ?_⟩
  · obtain ⟨o, input, output, content, target, c, place, hr, hl, ha, hc, hplace, hget, -⟩ :=
      (run_all_or_nothing [utf8 "/in", utf8 "out"] (onePolicy none)).2.2 hstatus
        (by simp [hrequest])
    obtain ⟨rfl, rfl, rfl⟩ := Request.compile.inj (hrequest.symm.trans hr)
    obtain rfl := Node.file.inj (Except.ok.inj (hlookup.symm.trans hl))
    obtain rfl := Except.ok.inj (harch.symm.trans ha)
    exact ⟨c, place, hc, hplace, hget⟩
  · exact (run_all_or_nothing [utf8 "/in", utf8 "out"] (onePolicy (some full))).1
      (by simp [hfailed])

end SyscallFilter.Tool.Compiler
