import Std.Data.TreeSet
import SyscallFilter.Action
import SyscallFilter.Arch.Basic
import SyscallFilter.Filter

/-! An allowlist under construction: the rules of a filter that refuses everything else. Rules stand
    in the order in which they were first added, one for each call number; a second rule for a
    number is passed over. The number of rules is bounded so that the longest filter still fits. -/

namespace SyscallFilter

/-- A rule: what happens to the calls with a number. -/
structure Rule where
  number : Nat
  /-- The name under which listings show the call. -/
  name : Bytes
  action : Action
  deriving DecidableEq

/-- The rules of a filter for a target. -/
structure Allowlist where
  arch : Arch
  /-- What happens to calls that no rule names. -/
  fallback : Action
  rules : List Rule
  /-- The numbers that have a rule. -/
  seen : Std.TreeSet Nat

namespace Allowlist

/-- The most instructions of a filter besides those of its rules: three that check the target, one
    that loads the number, two that check its range, and the fallback. -/
def overhead : Nat := 7

/-- The most rules that a filter may have: each of them takes two instructions. -/
def maxRules : Nat := (Filter.maxInstructions - overhead) / 2

theorem maxRules_eq : maxRules = 2044 := rfl

/-- The allowlist that refuses every call. -/
def empty (a : Arch) : Allowlist := ⟨a, .kill, [], ∅⟩

/-- The number of rules. -/
def size (p : Allowlist) : Nat := p.rules.length

/-- The names of the rules, in order. -/
def names (p : Allowlist) : List Bytes := p.rules.map (·.name)

/-- Why a rule cannot be added. -/
inductive AddError where
  | negative (number : Int) (name : Bytes)
  | full (name : Bytes)
  deriving DecidableEq

/-- The wording of an add error. -/
def AddError.message : AddError → Bytes
  | .negative number name =>
    utf8 "invalid syscall number: " ++ Numeral.signed number ++ utf8 " (" ++ name ++ utf8 ")"
  | .full name =>
    utf8 "filter program is full: cannot add " ++ name ++ utf8 ", limit is " ++
      Numeral.decimal maxRules ++ utf8 " rules"

/-- Adds a rule that allows a call: the answer, which tells whether the rule was new, and the
    allowlist behind the call. -/
def add (p : Allowlist) (number : Int) (name : Bytes) : Except AddError Bool × Allowlist :=
  match number with
  | .negSucc _ => (.error (.negative number name), p)
  | .ofNat n =>
    if p.seen.contains n then (.ok false, p)
    else if maxRules ≤ p.size then (.error (.full name), p)
    else
      (.ok true, { p with rules := p.rules ++ [⟨n, name, .allow⟩], seen := p.seen.insert n })

end Allowlist

end SyscallFilter
