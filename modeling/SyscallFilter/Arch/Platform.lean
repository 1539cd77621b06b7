import SyscallFilter.Arch.Aarch64
import SyscallFilter.Arch.Arm
import SyscallFilter.Arch.I386
import SyscallFilter.Arch.X8664

/-! The processor families that filters can be made for, each with the number under which the kernel
    reports it in the record of a call and with its table of system calls. -/

namespace SyscallFilter

/-- A processor family. -/
structure Platform where
  /-- The kernel's name for it. -/
  name : Bytes
  /-- The number in the record of a call. -/
  auditId : UInt32
  table : SyscallTable

namespace Platform

/-- The 64-bit x86 family. -/
def x8664 : Platform := ⟨utf8 "x86_64", 0xc000003e, .x8664⟩

/-- The 32-bit x86 family. -/
def i386 : Platform := ⟨utf8 "i386", 0x40000003, .i386⟩

/-- The 32-bit ARM family. -/
def arm : Platform := ⟨utf8 "arm", 0x40000028, .arm⟩

/-- The 64-bit ARM family. -/
def aarch64 : Platform := ⟨utf8 "aarch64", 0xc00000b7, .aarch64⟩

/-- The names under which families are known, in lower case. -/
def known : List (Bytes × Platform) :=
  [(utf8 "amd64", x8664), (utf8 "x86_64", x8664), (utf8 "386", i386), (utf8 "i386", i386),
    (utf8 "arm", arm), (utf8 "arm64", aarch64), (utf8 "aarch64", aarch64)]

/-- The family with a name in lower case. -/
def find? (name : Bytes) : Option Platform := known.lookup name

end Platform

end SyscallFilter
