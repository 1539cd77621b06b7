import SyscallFilter.Compile
import SyscallFilter.Output.Buffer

/-! What a compilation is written out as: a readable listing of the rules and the program, and the
    bytecode. The listing goes through a buffer. If the program cannot be taken apart, the listing
    ends before it, and what is still in the buffer is not written. -/

namespace SyscallFilter

open Output Bpf

/-- A number filled up with zeros to four digits, and the text of the instruction that has it. -/
def numberedInstruction (index : Nat) (i : Instruction) : Bytes :=
  Numeral.padded 4 (Numeral.decimal index) ++ utf8 ": " ++ i.text

namespace Compilation

/-- The line of a rule. -/
def ruleLine (r : Rule) : Bytes :=
  utf8 "  " ++ r.action.text ++ utf8 " " ++ r.name ++ utf8 " (" ++ Numeral.decimal r.number ++
    utf8 ")\n"

/-- The listing's lines before the program. -/
def heading (c : Compilation) : List Bytes :=
  [utf8 "# seccomp filter\n",
    utf8 "arch: " ++ c.allowlist.arch.text ++ utf8 "\n",
    utf8 "default: " ++ c.allowlist.fallback.text ++ utf8 "\n",
    utf8 "rules: " ++ Numeral.decimal c.allowlist.size ++ utf8 "\n"] ++
  c.allowlist.rules.map ruleLine

/-- The listing's lines on the program. -/
def programLines (program : List Instruction) : List Bytes :=
  (utf8 "bpf: " ++ Numeral.decimal program.length ++ utf8 " instructions\n") ::
    program.mapIdx fun index i => utf8 "  " ++ numberedInstruction index i ++ utf8 "\n"

/-- Why a listing is not complete. -/
inductive ListingError where
  | unknownInstructions
  | lost (loss : Loss)
  deriving DecidableEq

/-- The wording of a listing error. -/
def ListingError.message : ListingError → Bytes
  | .unknownInstructions => Filter.unknownMessage
  | .lost loss => loss.message

/-- Writes the listing. -/
def writeListing (c : Compilation) (sink : Sink) : Option ListingError × Sink :=
  let buffer := Buffer.writeAll { sink } c.heading
  match c.filter.disassemble? with
  | none => (some .unknownInstructions, buffer.sink)
  | some program =>
    let buffer := (buffer.writeAll (programLines program)).flush
    (buffer.loss.map .lost, buffer.sink)

/-- The bytecode of the filter, in the byte order of its target. -/
def bytecode (c : Compilation) : Bytes := c.filter.encode c.allowlist.arch.order

/-- Writes the bytecode at once; only a reported loss counts. -/
def writeBytecode (c : Compilation) (sink : Sink) : Option Loss × Sink :=
  let w := sink.write c.bytecode
  (w.loss, w.sink)

end Compilation

end SyscallFilter
