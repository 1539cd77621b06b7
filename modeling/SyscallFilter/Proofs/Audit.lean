import SyscallFilter.Proofs.Bytecode
import SyscallFilter.Proofs.Compilation
import SyscallFilter.Proofs.GroupedForm
import SyscallFilter.Proofs.Listings
import SyscallFilter.Tool.Dump

/-! The audit command reports what was compiled. It gets nothing but bytecode and the name of the
    target, and takes the bytecode apart into the very filter that was compiled. So it prints the
    instructions of the compiler's listing, and its verdicts are those of the policy: below the x32
    bit, where all calls of a table are, the two forms of a filter agree.

        policy ──▶ filter ──▶ bytecode ──▶ filter ──▶ instructions, verdicts
                      │
                      └──▶ listing -/

namespace SyscallFilter

open Policy Bpf

/-! ### Compiled filters -/

section Compiled

variable {arch emitter text : Bytes} {c : Compilation}
  (h : (compile (.ofBytes text) { arch := arch, emitter := emitter }).outcome = .ok c)
include h

/-- A text that is compiled with the target's own table becomes the filter of its allowlist. -/
theorem compile_default : ∃ (target : Arch) (e : Emitter), Arch.lookup arch = .ok target ∧
    c.allowlist = allowlistOf target target.resolve text ∧ e.emit c.allowlist = .ok c.filter ∧
    c.stats.instructions = c.filter.length := by
  obtain ⟨target, e, lines, draft, harch, -, hread, hrun, hfinish⟩ := compile_eq_ok h
  obtain ⟨hlist, hemit, hstats⟩ := Draft.finish_eq_ok hfinish
  obtain ⟨rfl, -⟩ := Prod.mk.inj ((readLines_ofBytes text).symm.trans hread)
  refine ⟨target, e, harch, ?_, hlist ▸ hemit, hstats⟩
  rw [hlist, Draft.allowlist_addAll hrun, contents_numbered]
  rfl

/-- Below the x32 bit, a compiled filter allows the calls that its text names, whatever its form. -/
theorem evaluate_of_compile {target : Arch} (harch : Arch.lookup arch = .ok target) (call : Call)
    (hsmall : call.number.toUInt32 < Emit.x32Bit) :
    c.filter.evaluate call = .ok
      (if call.arch = target.auditId ∧ Policy.Names text target call.number.toInt then Verdict.allow
      else Verdict.killProcess) := by
  obtain ⟨target', e, harch', hlist, hemit, -⟩ := compile_default h
  obtain rfl := Except.ok.inj (harch.symm.trans harch')
  have hsound : c.allowlist.Sound := hlist ▸ (Allowlist.sound_empty target).addAll _
  have htarget : c.allowlist.arch = target := hlist ▸ Allowlist.arch_addAll _ _
  have hnamed : ∀ rule ∈ c.allowlist.rules,
      c.allowlist.arch.table.numberOf? rule.name = some rule.number := by
    rw [htarget, hlist]
    exact Emit.named_of_resolve number_of_request
  rw [Emitter.evaluate_of_emit hsound hnamed hemit hsmall, hlist,
    linearVerdict_allowlistOf (Arch.wellFormed_of_lookup harch)]

end Compiled

/-! ### Calls -/

namespace Tool.Dump

open Files

/-- A call is found by a numeral of its number, or by its name if that is no numeral. -/
theorem lookupCall_cases {a : Arch} {call name : Bytes} {number : Int} :
    lookupCall a call = .ok (name, number) ↔
      Numeral.readInt? call = some number ∧ a.syscallName number = .ok name ∨
      Numeral.readInt? call = none ∧ call = name ∧
        ∃ n : Nat, number = n ∧ a.number name = .ok n := by
  rw [lookupCall]
  constructor
  · intro h
    split at h
    · next m hread =>
      split at h
      · next found hname =>
        obtain ⟨rfl, rfl⟩ := Prod.mk.inj (Except.ok.inj h)
        exact .inl ⟨hread, hname⟩
      · cases h
    · next hread =>
      split at h
      · next n hnumber =>
        obtain ⟨rfl, rfl⟩ := Prod.mk.inj (Except.ok.inj h)
        exact .inr ⟨hread, rfl, n, rfl, hnumber⟩
      · cases h
  · rintro (⟨hread, hname⟩ | ⟨hread, rfl, n, rfl, hnumber⟩)
    · simp only [hread, hname]
    · simp only [hread, hnumber]

/-- A call that is found stands in the target's table. -/
theorem lookupCall_eq_ok {a : Arch} (hwf : a.table.WellFormed) {call name : Bytes} {number : Int}
    (h : lookupCall a call = .ok (name, number)) :
    ∃ n : Nat, number = n ∧ (n, name) ∈ a.table := by
  rcases lookupCall_cases.mp h with ⟨-, hname⟩ | ⟨-, -, n, rfl, hnumber⟩
  · obtain ⟨n, rfl, hn⟩ := Arch.syscallName_eq_ok.mp hname
    exact ⟨n, rfl, SyscallTable.mem_of_nameOf? hn⟩
  · exact ⟨n, rfl, (SyscallTable.numberOf?_eq_some hwf.distinct).mp (Arch.number_eq_ok.mp hnumber)⟩

/-- What the command should print on a call: whether the text of the policy names it. -/
def reportLine (text : Bytes) (a : Arch) (call : Bytes) : Bytes :=
  match lookupCall a call with
  | .error _ => []
  | .ok (name, number) =>
    name ++ utf8 " (" ++ Numeral.signed number ++ utf8 "): " ++
      if Policy.Names text a number then utf8 "allow (0x7fff0000)\n"
      else utf8 "kill_process (0x80000000)\n"

theorem callLine_eq (name : Bytes) (number : Int) (verdict : UInt32) :
    callLine name number verdict = name ++ utf8 " (" ++ Numeral.signed number ++ utf8 "): " ++
      (Verdict.text verdict ++ utf8 " (" ++ Numeral.wordHex verdict ++ utf8 ")\n") := by
  simp only [callLine, List.append_assoc]

theorem callLine_allow (name : Bytes) (number : Int) : callLine name number Verdict.allow =
    name ++ utf8 " (" ++ Numeral.signed number ++ utf8 "): " ++ utf8 "allow (0x7fff0000)\n" := by
  have hverdict : Verdict.text Verdict.allow ++ utf8 " (" ++ Numeral.wordHex Verdict.allow ++
      utf8 ")\n" = utf8 "allow (0x7fff0000)\n" := by decide +kernel
  rw [callLine_eq, hverdict]

theorem callLine_kill (name : Bytes) (number : Int) : callLine name number Verdict.killProcess =
    name ++ utf8 " (" ++ Numeral.signed number ++ utf8 "): " ++
      utf8 "kill_process (0x80000000)\n" := by
  have hverdict : Verdict.text Verdict.killProcess ++ utf8 " (" ++
      Numeral.wordHex Verdict.killProcess ++ utf8 ")\n" = utf8 "kill_process (0x80000000)\n" := by
    decide +kernel
  rw [callLine_eq, hverdict]

/-- The listing of a program's instructions, given by their texts. -/
def listed (indent : Bytes) (texts : List Bytes) : Bytes :=
  (texts.mapIdx fun index text =>
    indent ++ Numeral.padded 4 (Numeral.decimal index) ++ utf8 ": " ++ text ++ utf8 "\n").flatten

theorem listed_texts (indent : Bytes) (program : List Instruction) :
    listed indent (program.map (·.text)) = (program.mapIdx fun index i =>
      indent ++ numberedInstruction index i ++ utf8 "\n").flatten := by
  refine congrArg List.flatten (List.ext_getElem (by simp) fun index _ _ => ?_)
  simp [numberedInstruction]

theorem flatten_programLines (program : List Instruction) :
    (Compilation.programLines program).flatten =
      utf8 "bpf: " ++ Numeral.decimal (program.map (·.text)).length ++ utf8 " instructions\n" ++
        listed (utf8 "  ") (program.map (·.text)) := by
  rw [listed_texts, List.length_map]
  rfl

theorem programText_eq (a : Arch) (path : Bytes) (program : List Instruction) :
    programText a path program =
      utf8 "# " ++ path ++ utf8 ": " ++ Numeral.decimal (program.map (·.text)).length ++
        utf8 " instructions for " ++ a.text ++ utf8 "\n" ++ listed [] (program.map (·.text)) := by
  rw [listed_texts, List.length_map]
  rfl

section Compiled

variable {arch emitter text : Bytes} {c : Compilation}
  (h : (compile (.ofBytes text) { arch := arch, emitter := emitter }).outcome = .ok c)
  {target : Arch} (harch : Arch.lookup arch = .ok target)
include h harch

/-- A compiled filter is judged on every call that is found by whether the text names it. -/
theorem judge_of_compile {call name : Bytes} {number : Int}
    (hcall : lookupCall target call = .ok (name, number)) :
    judge target c.filter call = .ok (reportLine text target call) := by
  have hwf := Arch.wellFormed_of_lookup harch
  obtain ⟨n, rfl, htable⟩ := lookupCall_eq_ok hwf hcall
  have hn := hwf.small _ htable
  obtain ⟨hint, hsmall⟩ := Emit.toInt_ofInt_of_small hn
  have heval := evaluate_of_compile h harch { number := .ofInt n, arch := target.auditId } hsmall
  simp only [judge, reportLine, hcall, heval, hint, true_and]
  by_cases hnames : Policy.Names text target n
  · rw [if_pos hnames, if_pos hnames, callLine_allow]
  · rw [if_neg hnames, if_neg hnames, callLine_kill]

theorem judgeAll_of_compile {calls : List Bytes}
    (hcalls : ∀ call ∈ calls, ∃ found, lookupCall target call = .ok found) :
    judgeAll target c.filter calls = (calls.flatMap (reportLine text target), none) := by
  induction calls with
  | nil => rfl
  | cons call calls ih =>
    obtain ⟨⟨name, number⟩, hcall⟩ := hcalls call List.mem_cons_self
    rw [judgeAll, judge_of_compile h harch hcall,
      ih fun other hother => hcalls other (List.mem_cons_of_mem call hother)]
    rfl

end Compiled

theorem readFile_of_lookup {t : Tree} {path content : Bytes}
    (h : t.lookup path = .ok (.file content)) : readFile t path = .ok content := by
  rw [readFile, Tree.readFile, h]
  rfl

/-- What the command reports on the bytecode of a compiled text is what was compiled. It counts as
    many instructions as the compilation, its listing and its bytecode do, prints the same
    instructions as the listing, and tells of each call that it can find whether the text names
    it. -/
theorem dumpFile_of_compile {arch emitter text : Bytes} {c : Compilation}
    (h : (compile (.ofBytes text) { arch := arch, emitter := emitter }).outcome = .ok c) :
    ∃ (target : Arch) (bytes : Bytes) (texts : List Bytes), Arch.lookup arch = .ok target ∧
      (c.writeBytecode {}).1 = none ∧ (c.writeBytecode {}).2.bytes = bytes ∧
      texts = c.filter.instructions.map (·.text) ∧
      texts.length = c.stats.instructions ∧ bytes.length = 8 * texts.length ∧
      (c.writeListing {}).1 = none ∧
      (c.writeListing {}).2.bytes = c.heading.flatten ++
        (utf8 "bpf: " ++ Numeral.decimal texts.length ++ utf8 " instructions\n" ++
          listed (utf8 "  ") texts) ∧
      ∀ (t : Tree) (path : Bytes) (calls : List Bytes), t.lookup path = .ok (.file bytes) →
        (∀ call ∈ calls, ∃ found, lookupCall target call = .ok found) →
        dumpFile (readFile t) arch path calls =
          (utf8 "# " ++ path ++ utf8 ": " ++ Numeral.decimal texts.length ++
            utf8 " instructions for " ++ target.text ++ utf8 "\n" ++ listed [] texts ++
            calls.flatMap (reportLine text target), none) := by
  obtain ⟨target, e, harch, hlist, hemit, hstats⟩ := compile_default h
  have htarget : c.allowlist.arch = target := hlist ▸ Allowlist.arch_addAll _ _
  have hbytes : c.bytecode = c.filter.encode target.order := by rw [Compilation.bytecode, htarget]
  obtain ⟨hne, hdisassemble⟩ :=
    Filter.disassemble?_of_evaluate (evaluate_of_compile h harch {} (by decide))
  obtain ⟨hlisting, hlisted⟩ := Compilation.writeListing_unlimited hdisassemble
  obtain ⟨hwritten, hwrote⟩ := c.writeBytecode_unlimited
  refine ⟨target, c.bytecode, _, harch, by rw [hwritten], hwrote, rfl, ?_, ?_, hlisting, ?_, ?_⟩
  · rw [hstats, List.length_map, Filter.instructions, List.length_map]
  · rw [hbytes, Filter.length_encode, List.length_map, Filter.instructions, List.length_map]
    rfl
  · rw [hlisted, List.flatten_append, flatten_programLines]
  · intro t path calls hlookup hcalls
    have hdecode := Filter.decode_encode hne (Emitter.length_of_emit hemit) target.order
    rw [dumpFile, harch]
    simp only [readFile_of_lookup hlookup, dumpBytes, hbytes, hdecode, hdisassemble,
      judgeAll_of_compile h harch hcalls, programText_eq]

/-- A tree with nothing but a file. -/
def oneFile (content : Bytes) : Tree := { nodes := [([utf8 "f"], .file content)] }

theorem dumpFile_of_compile_read :
    ∃ c front, (compile (.ofBytes (utf8 "read\n"))
        { arch := [], emitter := utf8 "policy" }).outcome = .ok c ∧
      dumpFile (readFile (oneFile c.bytecode)) [] (utf8 "f") [utf8 "read", utf8 "1"] =
        (front ++ utf8 "read (0): allow (0x7fff0000)\nwrite (1): kill_process (0x80000000)\n",
          none) := by
  have harch : Arch.lookup [] = .ok (.ofPlatform Arch.host .x8664) :=
    Arch.lookup_host (by decide +kernel)
  have hemitter : Emitter.ofName (utf8 "policy") = .ok .grouped := by decide +kernel
  have hok : (compile (.ofBytes (utf8 "read\n"))
      { arch := [], emitter := utf8 "policy" }).outcome.isOk = true := by
    simp only [compile, harch, hemitter, compileFor_ofBytes]
    decide +kernel
  have hcalls : ∀ call ∈ [utf8 "read", utf8 "1"],
      ∃ found, lookupCall (.ofPlatform Arch.host .x8664) call = .ok found := by
    simp only [List.mem_cons, List.not_mem_nil, or_false, forall_eq_or_imp, forall_eq]
    exact ⟨⟨(utf8 "read", 0), rfl⟩, ⟨(utf8 "write", 1), rfl⟩⟩
  have hreport : [utf8 "read", utf8 "1"].flatMap
      (reportLine (utf8 "read\n") (.ofPlatform Arch.host .x8664)) =
        utf8 "read (0): allow (0x7fff0000)\nwrite (1): kill_process (0x80000000)\n" := by
    decide +kernel
  cases hc : (compile (.ofBytes (utf8 "read\n"))
      { arch := [], emitter := utf8 "policy" }).outcome with
  | error e => simp [hc, Except.isOk, Except.toBool] at hok
  | ok c =>
    obtain ⟨target, bytes, texts, htarget, -, hbytes, -, -, -, -, -, hdump⟩ :=
      dumpFile_of_compile hc
    obtain rfl := Except.ok.inj (harch.symm.trans htarget)
    rw [c.writeBytecode_unlimited.2] at hbytes
    have hdumped := hdump (oneFile c.bytecode) (utf8 "f") _ (hbytes ▸ rfl) hcalls
    rw [hreport] at hdumped
    exact ⟨c, _, rfl, hdumped⟩

end Tool.Dump

end SyscallFilter
