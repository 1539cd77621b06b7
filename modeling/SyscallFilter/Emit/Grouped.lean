import SyscallFilter.Emit.Linear
import SyscallFilter.Text.Template

/-! The grouped form of a filter, for the host only: each rule is one comparison that jumps to a
    return shared by the group. Rules count by their names here, which the host's table turns into
    numbers.

    A jump reaches at most 255 instructions. A group with more rules than that is cut into blocks,
    each with a return of its own behind its last comparison:

        jeq #number, 254          255 comparisons, each one step nearer
        …
        jeq #number, 0, 1         the last of the block steps over the return
        ret #allow
        jeq #number, m            the last block has m comparisons
        …
        jeq #number, 1
        ret #kill
        ret #allow -/

namespace SyscallFilter.Emit

open Bpf

/-! ### The numbers of a group -/

/-- What is wrong with a name in a group. -/
inductive NameProblem where
  | unknown (arch name : Bytes)
  | duplicate (name : Bytes)
  deriving DecidableEq

/-- The wording of a problem with a name. -/
def NameProblem.message : NameProblem → Bytes
  | .unknown arch name =>
    utf8 "found unknown syscalls for arch " ++ arch ++ utf8 ": " ++ name
  | .duplicate name => utf8 "found duplicate syscall " ++ name

/-- The numbers and the problems of names, given the numbers taken before. -/
def groupNumbers (a : Arch) (taken : List Nat) : List Bytes → List Nat × List NameProblem
  | [] => ([], [])
  | name :: rest =>
    match a.table.numberOf? name with
    | none =>
      let (numbers, problems) := groupNumbers a taken rest
      (numbers, .unknown a.name name :: problems)
    | some n =>
      if n ∈ taken then
        let (numbers, problems) := groupNumbers a taken rest
        (numbers, .duplicate name :: problems)
      else
        let (numbers, problems) := groupNumbers a (n :: taken) rest
        (n :: numbers, problems)

/-! ### The group -/

/-- The longest conditional jump, and so the most comparisons in a block. -/
def reach : Nat := 255

/-- Comparisons that jump to the instruction behind the next `gap` ones after the last of them. -/
def comparisons (gap : Nat) : List Nat → List Instruction
  | [] => []
  | n :: rest =>
    .jumpIf .equal (.ofNat n) (.ofNat (rest.length + gap)) 0 :: comparisons gap rest

/-- A full block: the last comparison falls through to the next block over the return. -/
def fullBlock (allow : UInt32) : List Nat → List Instruction
  | [] => [.retConstant allow]
  | [n] => [.jumpIf .equal (.ofNat n) 0 1, .retConstant allow]
  | n :: m :: rest =>
    .jumpIf .equal (.ofNat n) (.ofNat (rest.length + 1)) 0 :: fullBlock allow (m :: rest)

/-- The comparisons of a group with their returns. -/
def group (allow deny : UInt32) (numbers : List Nat) : List Instruction :=
  if reach < numbers.length then
    fullBlock allow (numbers.take reach) ++ group allow deny (numbers.drop reach)
  else comparisons 1 numbers ++ [.retConstant deny, .retConstant allow]
termination_by numbers.length
decreasing_by simp [reach] at *; omega

/-- The comparison of the architecture, which jumps to the last but one of the `size` instructions
    of the group. -/
def archCheck (auditId : UInt32) (size : Nat) : List Instruction :=
  if size + 1 ≤ reach then [.jumpIf .notEqual auditId (.ofNat (size + 1)) 0]
  else [.jumpIf .equal auditId 1 0, .jump (.ofNat (size + 1))]

/-- The grouped form of a filter that allows the given numbers. -/
def grouped (auditId : UInt32) (allow deny : UInt32) (numbers : List Nat) : List Instruction :=
  let body := group allow deny numbers
  [.loadAbsolute Call.archOffset .word] ++ archCheck auditId body.length ++
    [.loadAbsolute Call.numberOffset .word, .jumpIf .greaterOrEqual x32Bit 0 1,
      .retConstant Verdict.noSuchCall] ++ body

end SyscallFilter.Emit
