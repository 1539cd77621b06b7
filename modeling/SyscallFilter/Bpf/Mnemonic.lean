import SyscallFilter.Bpf.Instruction

/-! The text of an instruction, as assembly listings show it. Numbers are decimal. An instruction
    that the machine does not have is shown with its parts, numbers of registers and codes in
    hexadecimal. -/

namespace SyscallFilter.Bpf

open SyscallFilter

/-- A constant operand. -/
def constantText (v : UInt32) : Bytes := utf8 "#" ++ Numeral.decimal v.toNat

/-- The text for an instruction that the machine does not have. -/
def unknownText (kind : String) (parts : List Bytes) : Bytes :=
  utf8 "unknown instruction: bpf." ++ utf8 kind ++ utf8 "\x7b" ++
    Bytes.join (utf8 ", ") parts ++ utf8 "\x7d"

/-- A labelled number in hexadecimal. -/
def hexPart (label : String) (n : Nat) : Bytes := utf8 label ++ utf8 ":" ++ Numeral.markedHex n

/-- A labelled number in decimal. -/
def intPart (label : String) (n : Int) : Bytes := utf8 label ++ utf8 ":" ++ Numeral.signed n

/-- The names of the extensions. -/
def extensionName? (number : Int) : Option String :=
  match number with
  | 1 => some "len"
  | 0 => some "proto"
  | 4 => some "type"
  | 52 => some "poff"
  | 8 => some "ifidx"
  | 12 => some "nla"
  | 16 => some "nlan"
  | 20 => some "mark"
  | 24 => some "queue"
  | 28 => some "hatype"
  | 32 => some "rxhash"
  | 36 => some "cpu"
  | 44 => some "vlan_tci"
  | 48 => some "vlan_avail"
  | 60 => some "vlan_tpid"
  | 56 => some "rand"
  | _ => none

/-- The text of a load from the machine's host. -/
def extensionText (number : Int) : Bytes :=
  match extensionName? number with
  | some name => utf8 "ld #" ++ utf8 name
  | none => unknownText "LoadExtension" [intPart "Num" number]

/-- The mnemonic of a load into a register. -/
def loadMnemonic? : Register → Option String
  | .accumulator => some "ld"
  | .index => some "ldx"
  | .unassigned _ => none

/-- The mnemonic of a store from a register. -/
def storeMnemonic? : Register → Option String
  | .accumulator => some "st"
  | .index => some "stx"
  | .unassigned _ => none

/-- The mnemonic of a load of a width. -/
def widthMnemonic? : Width → Option String
  | .byte => some "ldb"
  | .half => some "ldh"
  | .word => some "ld"
  | .unassigned _ => none

/-- The mnemonic of an operation. -/
def operationMnemonic? : Operation → Option String
  | .add => some "add"
  | .sub => some "sub"
  | .mul => some "mul"
  | .div => some "div"
  | .or => some "or"
  | .and => some "and"
  | .shiftLeft => some "lsh"
  | .shiftRight => some "rsh"
  | .mod => some "mod"
  | .xor => some "xor"
  | .unassigned _ => none

/-- The text of a scratch word. -/
def slotText (slot : Int) : Bytes := utf8 "M[" ++ Numeral.signed slot ++ utf8 "]"

/-- A mnemonic, a blank and an operand. -/
def withOperand (mnemonic : String) (operand : Bytes) : Bytes :=
  utf8 mnemonic ++ utf8 " " ++ operand

/-- A jump with one offset. -/
def jumpOne (mnemonic : String) (operand : Bytes) (skip : UInt8) : Bytes :=
  withOperand mnemonic operand ++ utf8 "," ++ Numeral.decimal skip.toNat

/-- A jump with both offsets. -/
def jumpTwo (mnemonic : String) (operand : Bytes) (skipTrue skipFalse : UInt8) : Bytes :=
  jumpOne mnemonic operand skipTrue ++ utf8 "," ++ Numeral.decimal skipFalse.toNat

/-- A jump whose test has an opposite with a mnemonic of its own. -/
def jumpEither (mnemonic opposite : String) (operand : Bytes) (skipTrue skipFalse : UInt8) :
    Bytes :=
  if skipTrue = 0 then jumpOne opposite operand skipFalse
  else if skipFalse = 0 then jumpOne mnemonic operand skipTrue
  else jumpTwo mnemonic operand skipTrue skipFalse

/-- A jump on common bits; the second offset is left out when it is zero. -/
def jumpBits (operand : Bytes) (skipTrue skipFalse : UInt8) : Bytes :=
  if skipFalse = 0 then jumpOne "jset" operand skipTrue
  else jumpTwo "jset" operand skipTrue skipFalse

/-- The text of a conditional jump with the given operand. -/
def jumpText (operand : Bytes) (test : Test) (skipTrue skipFalse : UInt8) : Bytes :=
  match test with
  | .equal => jumpEither "jeq" "jneq" operand skipTrue skipFalse
  | .notEqual => jumpOne "jneq" operand skipTrue
  | .greater => jumpEither "jgt" "jle" operand skipTrue skipFalse
  | .less => jumpOne "jlt" operand skipTrue
  | .greaterOrEqual => jumpEither "jge" "jlt" operand skipTrue skipFalse
  | .lessOrEqual => jumpOne "jle" operand skipTrue
  | .bitsSet => jumpBits operand skipTrue skipFalse
  | .bitsNotSet => jumpBits operand skipFalse skipTrue
  | .unassigned n => utf8 "unknown JumpTest " ++ Numeral.markedHex n.toNat

/-- The text of an instruction. -/
def Instruction.text : Instruction → Bytes
  | .loadConstant target value =>
    match loadMnemonic? target with
    | some m => withOperand m (constantText value)
    | none => unknownText "LoadConstant"
        [hexPart "Dst" target.number.toNat, hexPart "Val" value.toNat]
  | .loadScratch target slot =>
    match loadMnemonic? target with
    | some m => withOperand m (slotText slot)
    | none => unknownText "LoadScratch" [hexPart "Dst" target.number.toNat, intPart "N" slot]
  | .loadAbsolute offset width =>
    match widthMnemonic? width with
    | some m =>
      if width = .word ∧ offset > lastOffset then extensionText (offset + extensionBase).toNat
      else withOperand m (utf8 "[" ++ Numeral.decimal offset.toNat ++ utf8 "]")
    | none => unknownText "LoadAbsolute" [hexPart "Off" offset.toNat, intPart "Size" width.bytes]
  | .loadIndirect offset width =>
    match widthMnemonic? width with
    | some m => withOperand m (utf8 "[x + " ++ Numeral.decimal offset.toNat ++ utf8 "]")
    | none => unknownText "LoadIndirect" [hexPart "Off" offset.toNat, intPart "Size" width.bytes]
  | .loadMemShift offset => utf8 "ldx 4*([" ++ Numeral.decimal offset.toNat ++ utf8 "]&0xf)"
  | .loadExtension number => extensionText number
  | .storeScratch source slot =>
    match storeMnemonic? source with
    | some m => withOperand m (slotText slot)
    | none => unknownText "StoreScratch" [hexPart "Src" source.number.toNat, intPart "N" slot]
  | .aluConstant op value =>
    match operationMnemonic? op with
    | some m => withOperand m (constantText value)
    | none => unknownText "ALUOpConstant"
        [hexPart "Op" op.bits.toNat, hexPart "Val" value.toNat]
  | .aluIndex op =>
    match operationMnemonic? op with
    | some m => withOperand m (utf8 "x")
    | none => unknownText "ALUOpX" [hexPart "Op" op.bits.toNat]
  | .negate => utf8 "neg"
  | .jump skip => withOperand "ja" (Numeral.decimal skip.toNat)
  | .jumpIf test value skipTrue skipFalse =>
    jumpText (constantText value) test skipTrue skipFalse
  | .jumpIfIndex test skipTrue skipFalse => jumpText (utf8 "x") test skipTrue skipFalse
  | .retAccumulator => utf8 "ret a"
  | .retConstant value => withOperand "ret" (constantText value)
  | .copyToIndex => utf8 "tax"
  | .copyToAccumulator => utf8 "txa"
  | .raw w =>
    utf8 "\x7b" ++ Bytes.join (utf8 " ")
      [Numeral.decimal w.code.toNat, Numeral.decimal w.jt.toNat, Numeral.decimal w.jf.toNat,
        Numeral.decimal w.k.toNat] ++ utf8 "\x7d"

end SyscallFilter.Bpf
