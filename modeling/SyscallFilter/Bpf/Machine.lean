import SyscallFilter.Bpf.Instruction
import SyscallFilter.ByteOrder

/-! The machine that runs a filter program over a record. Jumps go forward only, so a run is a walk
    down the rest of the program: `exec` carries how many instructions are still to be skipped and
    needs no bound on the number of steps.

    Loading checks each instruction once, so that no jump leaves the program, no constant divisor is
    zero and the last instruction is a return. A load outside the record and a division by an index
    register of zero end the run with the answer zero. -/

namespace SyscallFilter.Bpf

open SyscallFilter

/-- Why a program cannot be loaded. -/
inductive LoadError where
  | empty
  | jumpTooFar (skip : Nat)
  | trueJumpTooFar (skip : Nat)
  | falseJumpTooFar (skip : Nat)
  | zeroDivisor
  | extension (number : Int)
  | noReturn
  deriving DecidableEq

/-- The wording of a load error. -/
def LoadError.message : LoadError → Bytes
  | .empty => utf8 "one or more Instructions must be specified"
  | .jumpTooFar n =>
    utf8 "cannot jump " ++ Numeral.decimal n ++ utf8 " instructions; jumping past program bounds"
  | .trueJumpTooFar n =>
    utf8 "cannot jump " ++ Numeral.decimal n ++
      utf8 " instructions in true case; jumping past program bounds"
  | .falseJumpTooFar n =>
    utf8 "cannot jump " ++ Numeral.decimal n ++
      utf8 " instructions in false case; jumping past program bounds"
  | .zeroDivisor => utf8 "cannot divide by zero using ALUOpConstant"
  | .extension n => utf8 "extension " ++ Numeral.signed n ++ utf8 " not implemented"
  | .noReturn => utf8 "BPF program must end with RetA or RetConstant"

/-! ### Loading -/

/-- Checks the offsets of a conditional jump with `left` instructions behind it. -/
def jumpFault? (left : Nat) (skipTrue skipFalse : UInt8) : Option LoadError :=
  if left ≤ skipTrue.toNat then some (.trueJumpTooFar skipTrue.toNat)
  else if left ≤ skipFalse.toNat then some (.falseJumpTooFar skipFalse.toNat)
  else none

/-- Checks one instruction with `left` instructions behind it. -/
def Instruction.fault? (left : Nat) : Instruction → Option LoadError
  | .jump skip => if left ≤ skip.toNat then some (.jumpTooFar skip.toNat) else none
  | .jumpIf _ _ skipTrue skipFalse => jumpFault? left skipTrue skipFalse
  | .jumpIfIndex _ skipTrue skipFalse => jumpFault? left skipTrue skipFalse
  | .aluConstant op value =>
    if value = 0 ∧ (op = .div ∨ op = .mod) then some .zeroDivisor else none
  | .loadExtension number => if number = lengthExtension then none else some (.extension number)
  | _ => none

/-- Whether an instruction ends the program. -/
def Instruction.isReturn : Instruction → Bool
  | .retAccumulator => true
  | .retConstant _ => true
  | _ => false

/-- The first fault of the last `count` instructions of a program. -/
def faultFrom? : Nat → List Instruction → Option LoadError
  | _, [] => none
  | count, i :: rest =>
    match i.fault? (count - 1) with
    | some e => some e
    | none => faultFrom? (count - 1) rest

/-- The reason why a program cannot be loaded, if there is one. -/
def loadFault? (program : List Instruction) : Option LoadError :=
  match program.getLast? with
  | none => some .empty
  | some last =>
    match faultFrom? program.length program with
    | some e => some e
    | none => if last.isReturn then none else some .noReturn

/-! ### Running -/

/-- The registers and scratch words of the machine. -/
structure Registers where
  a : UInt32 := 0
  x : UInt32 := 0
  scratch : Nat → UInt32 := fun _ => 0

/-- The value of `width` bytes of the record at an offset, the most significant byte first, if they
    lie inside it. -/
def fetch? (record : Bytes) (offset : Nat) (width : Width) : Option UInt32 :=
  let bytes := (record.drop offset).take width.bytes.toNat
  if bytes.length = width.bytes.toNat then some (.ofNat (ByteOrder.big.read bytes)) else none

/-- The result of an operation; none when it divides by zero. -/
def Operation.apply (op : Operation) (a b : UInt32) : Option UInt32 :=
  match op with
  | .add => some (a + b)
  | .sub => some (a - b)
  | .mul => some (a * b)
  | .div => if b = 0 then none else some (a / b)
  | .or => some (a ||| b)
  | .and => some (a &&& b)
  | .shiftLeft => some (if b < 32 then a <<< b else 0)
  | .shiftRight => some (if b < 32 then a >>> b else 0)
  | .mod => if b = 0 then none else some (a % b)
  | .xor => some (a ^^^ b)
  | .unassigned _ => some a

/-- Whether a test holds of the accumulator and an operand, both without sign. -/
def Test.holds (test : Test) (a b : UInt32) : Bool :=
  match test with
  | .equal => a == b
  | .notEqual => a != b
  | .greater => b < a
  | .less => a < b
  | .greaterOrEqual => b ≤ a
  | .lessOrEqual => a ≤ b
  | .bitsSet => a &&& b != 0
  | .bitsNotSet => a &&& b == 0
  | .unassigned _ => false

/-- What one instruction does. -/
inductive Step where
  /-- Goes on behind the next `skip` instructions. -/
  | next (registers : Registers) (skip : Nat)
  /-- Ends with an answer. -/
  | answer (value : UInt32)
  /-- The machine cannot run this instruction. -/
  | stuck

/-- Puts a value into a register. -/
def Registers.set (r : Registers) (target : Register) (value : UInt32) : Registers :=
  match target with
  | .accumulator => { r with a := value }
  | .index => { r with x := value }
  | .unassigned _ => r

/-- The value of a register. -/
def Registers.get (r : Registers) : Register → UInt32
  | .accumulator => r.a
  | .index => r.x
  | .unassigned _ => 0

/-- Goes on with a new accumulator, or ends with zero when there is none. -/
def Registers.nextA (r : Registers) : Option UInt32 → Step
  | some a => .next { r with a } 0
  | none => .answer 0

/-- The offset that a test selects. -/
def skipBy (holds : Bool) (skipTrue skipFalse : UInt8) : Nat :=
  if holds then skipTrue.toNat else skipFalse.toNat

/-- Runs one instruction over a record. -/
def Instruction.step (record : Bytes) (r : Registers) : Instruction → Step
  | .loadConstant target value => .next (r.set target value) 0
  | .loadScratch target slot => .next (r.set target (r.scratch slot.toNat)) 0
  | .loadAbsolute offset width => r.nextA (fetch? record offset.toNat width)
  | .loadIndirect offset width => r.nextA (fetch? record (offset.toNat + r.x.toNat) width)
  | .loadMemShift offset =>
    match fetch? record offset.toNat .byte with
    | some b => .next { r with x := 4 * (b &&& 0xf) } 0
    | none => .answer 0
  | .loadExtension _ => .next { r with a := .ofNat record.length } 0
  | .storeScratch source slot =>
    .next { r with scratch := fun n => if n = slot.toNat then r.get source else r.scratch n } 0
  | .aluConstant op value => r.nextA (op.apply r.a value)
  | .aluIndex op => r.nextA (op.apply r.a r.x)
  | .negate => .stuck
  | .jump skip => .next r skip.toNat
  | .jumpIf test value skipTrue skipFalse =>
    .next r (skipBy (test.holds r.a value) skipTrue skipFalse)
  | .jumpIfIndex test skipTrue skipFalse =>
    .next r (skipBy (test.holds r.a r.x) skipTrue skipFalse)
  | .retAccumulator => .answer r.a
  | .retConstant value => .answer value
  | .copyToIndex => .next { r with x := r.a } 0
  | .copyToAccumulator => .next { r with a := r.x } 0
  | .raw _ => .stuck

/-- Runs the rest of a program behind its first `skip` instructions; `index` counts the instructions
    passed. A run that gets stuck gives the index at which it did. -/
def exec (record : Bytes) : (index : Nat) → (skip : Nat) → Registers → List Instruction →
    Except Nat UInt32
  | _, _, _, [] => .ok 0
  | index, skip + 1, r, _ :: rest => exec record (index + 1) skip r rest
  | index, 0, r, i :: rest =>
    match i.step record r with
    | .next r' skip => exec record (index + 1) skip r' rest
    | .answer value => .ok value
    | .stuck => .error index

/-- Runs a program over a record, from registers and scratch words of zero. -/
def run (program : List Instruction) (record : Bytes) : Except Nat UInt32 :=
  exec record 0 0 {} program

end SyscallFilter.Bpf
