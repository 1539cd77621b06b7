import SyscallFilter.Arch.Basic

/-! Resolvers turn the names of a policy into call numbers. A resolver is any function of the name;
    it answers with a number and, it may be, a failure beside it. A name is resolved only by a
    number that is not negative and comes without a failure. -/

namespace SyscallFilter

/-- The answer of a resolver. -/
structure Resolution where
  number : Int
  /-- The text of the failure, if the name could not be resolved. -/
  failure : Option Bytes
  deriving DecidableEq

/-- A function from names to call numbers. -/
abbrev Resolver := Bytes → Resolution

namespace Resolution

/-- The number that goes with a failure. -/
def failed : Int := -1

/-- Whether the answer names no call. -/
def isUnresolved (r : Resolution) : Bool := r.failure.isSome || r.number < 0

end Resolution

/-- The resolver by the target's own table. -/
def Arch.resolve (a : Arch) : Resolver := fun name =>
  match a.number name with
  | .ok n => ⟨n, none⟩
  | .error e => ⟨Resolution.failed, some e.message⟩

end SyscallFilter
