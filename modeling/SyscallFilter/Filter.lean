import SyscallFilter.Bpf.Assembly
import SyscallFilter.Bpf.Machine
import SyscallFilter.Bpf.Mnemonic
import SyscallFilter.ByteOrder
import SyscallFilter.Call

/-! A filter is a program in its stored form. It is written to and read from bytecode, eight bytes
    an instruction; it is made from instructions, taken apart into instructions, and run over the
    record of a system call. -/

namespace SyscallFilter

open Bpf

/-- A filter program as it is stored. -/
abbrev Filter := List Bpf.Word

namespace Filter

/-- The most instructions that a filter may have. -/
def maxInstructions : Nat := 4096

/-- The number of bytes of a stored instruction. -/
def instructionSize : Nat := 8

/-! ### Bytecode -/

/-- The bytes of one stored instruction. -/
def encodeWord (order : ByteOrder) (w : Bpf.Word) : Bytes :=
  order.write 2 w.code.toNat ++ [w.jt, w.jf] ++ order.write 4 w.k.toNat

/-- The bytecode of a filter. -/
def encode (f : Filter) (order : ByteOrder) : Bytes := f.flatMap (encodeWord order)

/-- Why bytes are no bytecode: only their number can be wrong. -/
inductive LengthError where
  | empty
  | ragged (bytes : Nat)
  | tooLong (instructions : Nat)
  deriving DecidableEq

/-- The wording of a length error. -/
def LengthError.message (e : LengthError) : Bytes :=
  utf8 "invalid bpf program length: " ++ match e with
    | .empty => utf8 "empty program"
    | .ragged n =>
      Numeral.decimal n ++ utf8 " bytes is not a multiple of " ++ Numeral.decimal instructionSize
    | .tooLong n =>
      Numeral.decimal n ++ utf8 " instructions exceeds " ++ Numeral.decimal maxInstructions

/-- The instructions in as many whole groups of eight bytes as there are. -/
def decodeWords (order : ByteOrder) : Bytes → Filter
  | c₀ :: c₁ :: jt :: jf :: k₀ :: k₁ :: k₂ :: k₃ :: rest =>
    ⟨.ofNat (order.read [c₀, c₁]), jt, jf, .ofNat (order.read [k₀, k₁, k₂, k₃])⟩ ::
      decodeWords order rest
  | _ => []

/-- Reads bytecode. -/
def decode (bytes : Bytes) (order : ByteOrder) : Except LengthError Filter :=
  let size := bytes.length
  if size = 0 then .error .empty
  else if size % instructionSize ≠ 0 then .error (.ragged size)
  else if maxInstructions < size / instructionSize then
    .error (.tooLong (size / instructionSize))
  else .ok (decodeWords order bytes)

/-! ### Instructions -/

/-- Why instructions do not make a filter. -/
inductive ExportError where
  | tooLong (instructions : Nat)
  | assembly (index : Nat) (cause : AssemblyError)
  deriving DecidableEq

/-- The wording of an export error. -/
def ExportError.message : ExportError → Bytes
  | .tooLong n => utf8 "filter program is full: " ++ Numeral.decimal n ++ utf8 " instructions"
  | .assembly index cause =>
    utf8 "assembling instruction " ++ Numeral.decimal index ++ utf8 ": " ++ cause.message

/-- The filter that instructions make. -/
def ofInstructions (program : List Instruction) : Except ExportError Filter :=
  if maxInstructions < program.length then .error (.tooLong program.length)
  else match assemble program with
    | .ok words => .ok words
    | .error (index, cause) => .error (.assembly index cause)

/-- The instructions of a filter; those that the machine does not have stay raw. -/
def instructions (f : Filter) : List Instruction := f.map Word.disassemble

/-- The instructions of a filter, if the machine has all of them. -/
def disassemble? (f : Filter) : Option (List Instruction) :=
  if isUnderstood f then some f.instructions else none

/-- The wording for a filter that holds instructions which the machine does not have. -/
def unknownMessage : Bytes := utf8 "bpf program contains unknown instructions"

/-! ### Verdicts -/

/-- Why a filter gives no verdict on a call. -/
inductive EvaluationError where
  | unknown
  | load (cause : LoadError)
  | stuck (index : Nat)
  deriving DecidableEq

/-- The wording of an evaluation error. -/
def EvaluationError.message : EvaluationError → Bytes
  | .unknown => unknownMessage
  | .load cause => utf8 "load bpf program: " ++ cause.message
  | .stuck index =>
    utf8 "run bpf program: unknown Instruction at index " ++ Numeral.decimal index ++
      utf8 ": bpf.NegateA"

/-- The verdict of a filter on a call. -/
def evaluate (f : Filter) (c : Call) : Except EvaluationError UInt32 :=
  match f.disassemble? with
  | none => .error .unknown
  | some program =>
    match loadFault? program with
    | some cause => .error (.load cause)
    | none =>
      match run program c.record with
      | .ok verdict => .ok verdict
      | .error index => .error (.stuck index)

end Filter

end SyscallFilter
