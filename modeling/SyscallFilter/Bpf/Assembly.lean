import SyscallFilter.Bpf.Instruction

/-! Assembly, from instructions to stored words, and disassembly, back again. Both work instruction
    by instruction. Assembly refuses registers, widths, tests and scratch words that do not exist;
    disassembly keeps a word that it does not know and reports the whole program as not understood.

    A stored conditional jump has four tests only. The other four are stored with their two offsets
    exchanged, and a stored jump that does not skip when its test holds is read as its opposite. -/

namespace SyscallFilter.Bpf

open SyscallFilter

/-- Why an instruction cannot be stored. -/
inductive AssemblyError where
  | scratchSlot (slot : Int)
  | targetRegister (number : UInt16)
  | sourceRegister (number : UInt16)
  | loadWidth
  | jumpTest (number : UInt16)
  deriving DecidableEq

/-- The wording of an assembly error. -/
def AssemblyError.message : AssemblyError → Bytes
  | .scratchSlot n => utf8 "invalid scratch slot " ++ Numeral.signed n
  | .targetRegister n => utf8 "invalid target register " ++ Numeral.decimal n.toNat
  | .sourceRegister n => utf8 "invalid source register " ++ Numeral.decimal n.toNat
  | .loadWidth => utf8 "invalid load byte length 0"
  | .jumpTest n => utf8 "unknown JumpTest " ++ Numeral.decimal n.toNat

/-! ### Assembly -/

/-- A stored word without jump offsets. -/
def plainWord (code : UInt16) (k : UInt32) : Word := ⟨code, 0, 0, k⟩

/-- The bits of a width inside a load's code. -/
def widthBits : Width → Except AssemblyError UInt16
  | .word => .ok 0x00
  | .half => .ok 0x08
  | .byte => .ok 0x10
  | .unassigned _ => .error .loadWidth

/-- The class of a load into a register. -/
def loadClass : Register → Except AssemblyError UInt16
  | .accumulator => .ok 0x00
  | .index => .ok 0x01
  | .unassigned n => .error (.targetRegister n)

/-- The class of a store from a register. -/
def storeClass : Register → Except AssemblyError UInt16
  | .accumulator => .ok 0x02
  | .index => .ok 0x03
  | .unassigned n => .error (.sourceRegister n)

/-- A scratch word's number as a stored constant. -/
def slotOperand (slot : Int) : Except AssemblyError UInt32 :=
  if 0 ≤ slot ∧ slot < scratchSize then .ok (.ofNat slot.toNat) else .error (.scratchSlot slot)

/-- The stored form of a test: its code, and whether the two offsets are exchanged. -/
def testCode : Test → Except AssemblyError (UInt16 × Bool)
  | .equal => .ok (0x10, false)
  | .notEqual => .ok (0x10, true)
  | .greater => .ok (0x20, false)
  | .less => .ok (0x30, true)
  | .greaterOrEqual => .ok (0x30, false)
  | .lessOrEqual => .ok (0x20, true)
  | .bitsSet => .ok (0x40, false)
  | .bitsNotSet => .ok (0x40, true)
  | .unassigned n => .error (.jumpTest n)

/-- The stored form of a conditional jump. -/
def jumpWord (test : Test) (source : UInt16) (k : UInt32) (skipTrue skipFalse : UInt8) :
    Except AssemblyError Word :=
  match testCode test with
  | .ok (code, false) => .ok ⟨0x05 ||| code ||| source, skipTrue, skipFalse, k⟩
  | .ok (code, true) => .ok ⟨0x05 ||| code ||| source, skipFalse, skipTrue, k⟩
  | .error e => .error e

/-- The stored form of an instruction. -/
def Instruction.assemble : Instruction → Except AssemblyError Word
  | .loadConstant target value => do
    let cls ← loadClass target
    return plainWord cls value
  | .loadScratch target slot => do
    let k ← slotOperand slot
    let cls ← loadClass target
    return plainWord (0x60 ||| cls) k
  | .loadAbsolute offset width => do
    let bits ← widthBits width
    return plainWord (0x20 ||| bits) offset
  | .loadIndirect offset width => do
    let bits ← widthBits width
    return plainWord (0x40 ||| bits) offset
  | .loadMemShift offset => return plainWord 0xb1 offset
  | .loadExtension number =>
    if number = lengthExtension then return plainWord 0x80 0
    else return plainWord 0x20 (UInt32.ofInt number - extensionBase)
  | .storeScratch source slot => do
    let k ← slotOperand slot
    let cls ← storeClass source
    return plainWord cls k
  | .aluConstant op value => return plainWord (0x04 ||| op.bits) value
  | .aluIndex op => return plainWord (0x0c ||| op.bits) 0
  | .negate => return plainWord 0x84 0
  | .jump skip => return plainWord 0x05 skip
  | .jumpIf test value skipTrue skipFalse => jumpWord test 0x00 value skipTrue skipFalse
  | .jumpIfIndex test skipTrue skipFalse => jumpWord test 0x08 0 skipTrue skipFalse
  | .retAccumulator => return plainWord 0x16 0
  | .retConstant value => return plainWord 0x06 value
  | .copyToIndex => return plainWord 0x07 0
  | .copyToAccumulator => return plainWord 0x87 0
  | .raw word => return word

/-- Assembles instructions, the first of which has the given index; a failure names its index. -/
def assembleFrom (index : Nat) : List Instruction → Except (Nat × AssemblyError) (List Word)
  | [] => .ok []
  | i :: rest =>
    match i.assemble with
    | .error e => .error (index, e)
    | .ok w =>
      match assembleFrom (index + 1) rest with
      | .error e => .error e
      | .ok ws => .ok (w :: ws)

/-- Assembles a program; instructions are counted from one. -/
def assemble (program : List Instruction) : Except (Nat × AssemblyError) (List Word) :=
  assembleFrom 1 program

/-! ### Disassembly -/

/-- The width in the code of a load. -/
def codeWidth? (code : UInt16) : Option Width :=
  if code &&& 0x18 = 0x00 then some .word
  else if code &&& 0x18 = 0x08 then some .half
  else if code &&& 0x18 = 0x10 then some .byte
  else none

/-- The register in the code of a load or store. -/
def codeRegister (code : UInt16) : Register :=
  if code &&& 1 = 0 then .accumulator else .index

/-- The load of the given word and width, unless it stays raw. -/
def disassembleLoad? (w : Word) (width : Width) : Option Instruction :=
  let mode := w.code &&& 0xe0
  if mode = 0x00 then
    if width = .word then some (.loadConstant (codeRegister w.code) w.k) else none
  else if mode = 0x20 then
    if w.k > lastOffset then some (.loadExtension (w.k + extensionBase).toNat)
    else some (.loadAbsolute w.k width)
  else if mode = 0x40 then some (.loadIndirect w.k width)
  else if mode = 0x60 then
    if width = .word ∧ w.k.toNat < scratchSize then
      some (.loadScratch (codeRegister w.code) w.k.toNat)
    else none
  else if mode = 0x80 then
    if width = .word then some (.loadExtension lengthExtension) else none
  else if mode = 0xa0 then some (.loadMemShift w.k)
  else none

/-- The arithmetic instruction of a word, unless it stays raw. -/
def disassembleAlu? (w : Word) : Option Instruction :=
  let bits := w.code &&& 0xf0
  if bits = 0x80 then some .negate
  else match Operation.ofBits bits with
    | .unassigned _ => none
    | op => some (if w.code &&& 0x08 = 0 then .aluConstant op w.k else .aluIndex op)

/-- The test in a jump's code, and the opposite test. -/
def codeTest? (code : UInt16) : Option (Test × Test) :=
  if code &&& 0xf0 = 0x10 then some (.equal, .notEqual)
  else if code &&& 0xf0 = 0x20 then some (.greater, .lessOrEqual)
  else if code &&& 0xf0 = 0x30 then some (.greaterOrEqual, .less)
  else if code &&& 0xf0 = 0x40 then some (.bitsSet, .bitsNotSet)
  else none

/-- A conditional jump against the operand that the code names. -/
def conditionalJump (w : Word) (test : Test) (skipTrue skipFalse : UInt8) : Instruction :=
  if w.code &&& 0x08 = 0 then .jumpIf test w.k skipTrue skipFalse
  else .jumpIfIndex test skipTrue skipFalse

/-- The jump of a word, unless it stays raw. -/
def disassembleJump? (w : Word) : Option Instruction :=
  if w.code &&& 0xf0 = 0 then some (.jump w.k)
  else match codeTest? w.code with
    | none => none
    | some (test, opposite) =>
      some (if w.jt = 0 then conditionalJump w opposite w.jf 0
        else conditionalJump w test w.jt w.jf)

/-- The instruction that a word stores, if the machine has it. -/
def Word.instruction? (w : Word) : Option Instruction :=
  let cls := w.code &&& 7
  if cls = 0 ∨ cls = 1 then
    match codeWidth? w.code with
    | none => none
    | some width => disassembleLoad? w width
  else if cls = 2 ∨ cls = 3 then
    if w.code = cls ∧ w.k.toNat < scratchSize then
      some (.storeScratch (codeRegister w.code) w.k.toNat)
    else none
  else if cls = 4 then disassembleAlu? w
  else if cls = 5 then disassembleJump? w
  else if cls = 6 then
    if w.code = 0x16 then some .retAccumulator
    else if w.code = 0x06 then some (.retConstant w.k)
    else none
  else
    if w.code = 0x07 then some .copyToIndex
    else if w.code = 0x87 then some .copyToAccumulator
    else none

/-- The instruction that a word stores; a word that the machine does not have stays raw. -/
def Word.disassemble (w : Word) : Instruction := w.instruction?.getD (.raw w)

/-- Whether every word of a program is an instruction of the machine. -/
def isUnderstood (words : List Word) : Bool := words.all fun w => w.instruction?.isSome

end SyscallFilter.Bpf
