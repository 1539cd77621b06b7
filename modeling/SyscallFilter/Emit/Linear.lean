import SyscallFilter.Allowlist
import SyscallFilter.Filter

/-! The linear form of a filter, for any target: each rule is a comparison and a return of its own.

        ld [4]                    the architecture of the call
        jeq #arch, 1, 0
        ret #kill
        ld [0]                    the number of the call
        jge #0x40000000, 0, 1     on x86-64 only
        ret #kill
        jeq #number, 0, 1         for each rule
        ret #allow
        ret #kill -/

namespace SyscallFilter.Emit

open Bpf

/-- The bit that marks the call numbers of the x32 variant. -/
def x32Bit : UInt32 := 0x40000000

/-- The instructions of one rule. -/
def ruleInstructions (r : Rule) : List Instruction :=
  [.jumpIf .equal (.ofNat r.number) 0 1, .retConstant r.action.verdict]

/-- The instructions that refuse the calls of the x32 variant, where that is needed. -/
def x32Instructions (p : Allowlist) : List Instruction :=
  if p.arch.refusesX32 then
    [.jumpIf .greaterOrEqual x32Bit 0 1, .retConstant p.fallback.verdict]
  else []

/-- The linear form of an allowlist. -/
def linear (p : Allowlist) : List Instruction :=
  [.loadAbsolute Call.archOffset .word, .jumpIf .equal p.arch.auditId 1 0,
    .retConstant p.fallback.verdict, .loadAbsolute Call.numberOffset .word] ++
  x32Instructions p ++ p.rules.flatMap ruleInstructions ++ [.retConstant p.fallback.verdict]

end SyscallFilter.Emit
