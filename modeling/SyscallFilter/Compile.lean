import SyscallFilter.Emit.Emitter
import SyscallFilter.Log
import SyscallFilter.Policy.Reader
import SyscallFilter.Resolver

/-! Compilation of a policy: its lines are read, the names on them resolved, and the calls they name
    become the rules of a filter. A name that cannot be resolved is noted and passed over. A line
    that cannot be added, a fault of the source and an allowlist that cannot be emitted end the
    compilation without a result; of a bad line and a later fault, the line counts. -/

namespace SyscallFilter

open Policy

/-- The accounts of a compilation. -/
structure Stats where
  lines : Nat := 0
  blank : Nat := 0
  comments : Nat := 0
  rules : Nat := 0
  duplicates : Nat := 0
  unresolved : Nat := 0
  instructions : Nat := 0
  deriving DecidableEq

/-- The accounts on one line. -/
def Stats.text (s : Stats) : Bytes :=
  let entry (label : String) (n : Nat) : Bytes := utf8 label ++ utf8 "=" ++ Numeral.decimal n
  let group (entries : List Bytes) : Bytes :=
    utf8 "[" ++ Bytes.join (utf8 " ") entries ++ utf8 "]"
  utf8 "Stats" ++
    group [entry "lines" s.lines, entry "blank" s.blank, entry "comments" s.comments] ++
    group [entry "rules" s.rules, entry "duplicates" s.duplicates,
      entry "unresolved" s.unresolved] ++
    group [entry "instructions" s.instructions]

/-- What to compile for. -/
structure Config where
  /-- The name of the target; the empty name means the host. -/
  arch : Bytes := []
  /-- The name of the emitter; the empty name means the linear one. -/
  emitter : Bytes := []
  /-- Takes the place of the target's own table. -/
  resolver : Option Resolver := none

/-- The result of a compilation. -/
structure Compilation where
  allowlist : Allowlist
  filter : Filter
  /-- The lines whose names could not be resolved, in order. -/
  unresolved : List Line
  stats : Stats

/-- Why a compilation has no result. -/
inductive CompileError where
  | arch (cause : Arch.LookupError)
  | emitter (cause : Emitter.ChoiceError)
  | read (cause : ReadError)
  | rule (line : Nat) (name : Bytes) (cause : Allowlist.AddError)
  | emit (cause : Emitter.EmitError)
  deriving DecidableEq

/-- The wording of a compile error. -/
def CompileError.message : CompileError → Bytes
  | .arch cause => cause.message
  | .emitter cause => cause.message
  | .read cause => cause.message
  | .rule line name cause =>
    utf8 "line " ++ Numeral.decimal line ++ utf8 ": add rule for " ++ name ++ utf8 ": " ++
      cause.message
  | .emit cause => utf8 "emit bpf program: " ++ cause.message

/-! ### Lines -/

/-- A compilation in the middle of its policy. -/
structure Draft where
  allowlist : Allowlist
  /-- The lines whose names could not be resolved, the last one first. -/
  unresolved : List Line := []
  stats : Stats := {}
  /-- The entries of the log, the last one first. -/
  log : List Log.Entry := []

namespace Draft

/-- The values that an entry on a line shows. -/
def lineField (line : Line) : String × Bytes := ("line", Numeral.decimal line.number)

/-- Notes a blank line. -/
def addBlank (d : Draft) : Draft :=
  { d with stats := { d.stats with lines := d.stats.lines + 1, blank := d.stats.blank + 1 } }

/-- Notes a comment. -/
def addComment (d : Draft) : Draft :=
  { d with stats := { d.stats with lines := d.stats.lines + 1, comments := d.stats.comments + 1 } }

/-- Notes a name that cannot be resolved. -/
def addUnresolved (d : Draft) (line : Line) (name : Bytes) : Draft :=
  { d with
    unresolved := line :: d.unresolved
    stats := { d.stats with lines := d.stats.lines + 1, unresolved := d.stats.unresolved + 1 }
    log := ⟨.warning, utf8 "Cannot resolve syscall, skipping",
      [lineField line, ("syscall", name)]⟩ :: d.log }

/-- Takes over an allowlist that had a rule for a call already. -/
def addDuplicate (d : Draft) (p : Allowlist) (line : Line) (name : Bytes) : Draft :=
  { d with
    allowlist := p
    stats := { d.stats with lines := d.stats.lines + 1, duplicates := d.stats.duplicates + 1 }
    log := ⟨.debug, utf8 "Duplicate syscall", [lineField line, ("syscall", name)]⟩ :: d.log }

/-- Takes over an allowlist with a new rule. -/
def addRule (d : Draft) (p : Allowlist) (line : Line) (name : Bytes) (number : Int) : Draft :=
  { d with
    allowlist := p
    stats := { d.stats with lines := d.stats.lines + 1, rules := d.stats.rules + 1 }
    log := ⟨.debug, utf8 "Allow syscall",
      [lineField line, ("nr", Numeral.signed number), ("syscall", name)]⟩ :: d.log }

/-- Takes in a line that names a call. -/
def addSyscall (d : Draft) (resolver : Resolver) (line : Line) (name : Bytes) :
    Except CompileError Draft :=
  let answer := resolver name
  if answer.isUnresolved then .ok (d.addUnresolved line name)
  else match d.allowlist.add answer.number name with
    | (.error cause, _) => .error (.rule line.number name cause)
    | (.ok false, p) => .ok (d.addDuplicate p line name)
    | (.ok true, p) => .ok (d.addRule p line name answer.number)

/-- Takes in a line. -/
def add (d : Draft) (resolver : Resolver) (line : Line) : Except CompileError Draft :=
  match line.content with
  | .blank => .ok d.addBlank
  | .comment => .ok d.addComment
  | .syscall name => d.addSyscall resolver line name

/-- Takes in lines, up to one that cannot be added. -/
def addAll (resolver : Resolver) (d : Draft) : List Line → Draft × Option CompileError
  | [] => (d, none)
  | line :: rest =>
    match d.add resolver line with
    | .ok d' => addAll resolver d' rest
    | .error e => (d, some e)

/-- Turns a draft into a result. -/
def finish (d : Draft) (emitter : Emitter) : Except CompileError Compilation :=
  match emitter.emit d.allowlist with
  | .error cause => .error (.emit cause)
  | .ok filter =>
    .ok {
      allowlist := d.allowlist
      filter := filter
      unresolved := d.unresolved.reverse
      stats := { d.stats with instructions := filter.length } }

end Draft

/-! ### Policies -/

/-- What a compilation gives: entries of the log, and a result or an error. -/
structure Report where
  log : List Log.Entry
  outcome : Except CompileError Compilation

/-- Compiles a source for a target. -/
def compileFor (target : Arch) (emitter : Emitter) (resolver : Resolver) (source : Source) :
    Report :=
  let (lines, answer) := readLines source
  let (draft, problem) := Draft.addAll resolver { allowlist := .empty target } lines
  { log := draft.log.reverse
    outcome :=
      match problem, answer with
      | some e, _ => .error e
      | none, .endOfInput => draft.finish emitter
      | none, fault => .error (.read fault) }

/-- Compiles a policy. -/
def compile (source : Source) (config : Config) : Report :=
  match Arch.lookup config.arch with
  | .error cause => ⟨[], .error (.arch cause)⟩
  | .ok target =>
    match Emitter.ofName config.emitter with
    | .error cause => ⟨[], .error (.emitter cause)⟩
    | .ok emitter => compileFor target emitter (config.resolver.getD target.resolve) source

end SyscallFilter
