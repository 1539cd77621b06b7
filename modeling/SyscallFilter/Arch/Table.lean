import SyscallFilter.Bytes

/-! A table of system calls: the number and the name of each call that an architecture has. -/

namespace SyscallFilter

/-- The system calls of an architecture, each with its number and name. -/
abbrev SyscallTable := List (Nat × Bytes)

namespace SyscallTable

/-- The table with the given numbers and names. -/
def ofNames (entries : List (Nat × String)) : SyscallTable :=
  entries.map fun e => (e.1, utf8 e.2)

/-- The number of the call with a name. -/
def numberOf? (t : SyscallTable) (name : Bytes) : Option Nat :=
  (t.find? fun e => e.2 == name).map (·.1)

/-- The name of the call with a number. -/
def nameOf? (t : SyscallTable) (number : Nat) : Option Bytes :=
  (t.find? fun e => e.1 == number).map (·.2)

end SyscallTable

end SyscallFilter
