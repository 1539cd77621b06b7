import SyscallFilter.Emit.Grouped

/-! Emitters turn an allowlist into a filter. One is chosen by name; `native` makes the linear form
    and `policy` the grouped one. -/

namespace SyscallFilter

/-- A way to turn an allowlist into a filter. -/
inductive Emitter where
  | linear
  | grouped
  deriving DecidableEq

namespace Emitter

/-- Why there is no emitter of a name. -/
inductive ChoiceError where
  /-- It needs a library that is not part of this program. -/
  | unavailable
  | unknown (name : Bytes)
  deriving DecidableEq

/-- The wording of a choice error. -/
def ChoiceError.message : ChoiceError → Bytes
  | .unavailable => utf8 "built without libseccomp support (rebuild with -tags libseccomp)"
  | .unknown name => utf8 "unknown emitter " ++ Text.quoted name

/-- The emitter with a name; the empty name means the linear one. -/
def ofName (name : Bytes) : Except ChoiceError Emitter :=
  if name = [] ∨ name = utf8 "native" then .ok .linear
  else if name = utf8 "policy" then .ok .grouped
  else if name = utf8 "libseccomp" then .error .unavailable
  else .error (.unknown name)

/-- Why an allowlist cannot be emitted. -/
inductive EmitError where
  | foreignTarget (arch : Bytes)
  | noRules
  | names (problems : List Emit.NameProblem)
  | program (cause : Filter.ExportError)
  deriving DecidableEq

/-- The wording of an emit error. The problems of names are taken as a template, in which percent
    signs have a meaning. -/
def EmitError.message : EmitError → Bytes
  | .foreignTarget arch =>
    utf8 "emitter only supports the native architecture: target " ++ arch
  | .noRules => utf8 "syscalls must not be empty"
  | .names problems =>
    Text.Template.fill (Bytes.join [Bytes.newline] (problems.map (·.message)))
  | .program cause => cause.message

/-- The filter that instructions make. -/
def ofProgram (program : List Bpf.Instruction) : Except EmitError Filter :=
  match Filter.ofInstructions program with
  | .ok f => .ok f
  | .error cause => .error (.program cause)

/-- The filter of an allowlist in the grouped form. -/
def emitGrouped (p : Allowlist) : Except EmitError Filter :=
  if !p.arch.isNative then .error (.foreignTarget p.arch.name)
  else if p.rules.isEmpty then .error .noRules
  else match Emit.groupNumbers p.arch [] p.names with
    | (numbers, []) =>
      ofProgram (Emit.grouped p.arch.auditId Action.allow.verdict p.fallback.verdict numbers)
    | (_, problems) => .error (.names problems)

/-- The filter of an allowlist. -/
def emit (e : Emitter) (p : Allowlist) : Except EmitError Filter :=
  match e with
  | .linear => ofProgram (Emit.linear p)
  | .grouped => emitGrouped p

end Emitter

end SyscallFilter
