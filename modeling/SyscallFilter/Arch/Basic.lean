import SyscallFilter.Arch.Platform
import SyscallFilter.ByteOrder
import SyscallFilter.Numeral
import SyscallFilter.Text.Lowercase
import SyscallFilter.Text.Quoted

/-! The target architecture of a filter. It is looked up by name: aliases are replaced first, as
    they are spelt; then the family is found without regard to case. A target keeps the name it was
    asked for, and only the exact name of the host counts as native.

    The x32 variant of x86-64 shares the family's number in the record of a call and differs by a
    bit in the call's number. It is never a target, and a native filter refuses its calls. -/

namespace SyscallFilter

/-- The target architecture of a filter. -/
structure Arch where
  /-- The name it was asked for, with aliases replaced. -/
  request : Bytes
  /-- The kernel's name for its family. -/
  name : Bytes
  /-- The number in the record of a call. -/
  auditId : UInt32
  /-- The byte order of its bytecode. -/
  order : ByteOrder
  /-- Whether a filter has to refuse calls of the x32 variant. -/
  refusesX32 : Bool
  table : SyscallTable

namespace Arch

/-- The architecture on which filters are made. -/
def host : Bytes := utf8 "amd64"

/-- The variant of x86-64 that has no table of its own. -/
def x32 : Bytes := utf8 "x32"

/-- Other names of architectures, with the names that replace them. -/
def aliases : List (Bytes × Bytes) :=
  [(utf8 "x86_64", host), (utf8 "x86", utf8 "386"), (utf8 "i386", utf8 "386"),
    (utf8 "i686", utf8 "386"), (utf8 "aarch64", utf8 "arm64")]

/-- The name to look up when `name` is asked for; the empty name means the host. -/
def canonical (name : Bytes) : Bytes :=
  let name := if name = [] then host else name
  (aliases.lookup name).getD name

/-- Why an architecture cannot be a target. -/
inductive LookupError where
  /-- It is known, but filters for it would be wrong. -/
  | unsupported (name : Bytes)
  /-- It is not known. -/
  | unknown (request : Bytes)
  deriving DecidableEq

/-- The wording of a lookup error. -/
def LookupError.message : LookupError → Bytes
  | .unsupported name => utf8 "unsupported arch: " ++ name
  | .unknown request =>
    utf8 "lookup arch " ++ Text.quoted request ++ utf8 ": unsupported arch: " ++ Text.lower request

/-- The target of a family, under the name it was asked for. -/
def ofPlatform (request : Bytes) (p : Platform) : Arch where
  request := request
  name := p.name
  auditId := p.auditId
  order := .little
  refusesX32 := request = host
  table := p.table

/-- The target with a name. -/
def lookup (name : Bytes) : Except LookupError Arch :=
  let request := canonical name
  if Text.lower request = x32 then .error (.unsupported x32)
  else match Platform.find? (Text.lower request) with
    | some p => .ok (ofPlatform request p)
    | none => .error (.unknown request)

/-- Whether the target is the host, under the host's own name. -/
def isNative (a : Arch) : Bool := a.request == host

/-- The target as listings show it. -/
def text (a : Arch) : Bytes := a.name ++ utf8 " (" ++ Numeral.wordHex a.auditId ++ utf8 ")"

/-! ### System calls -/

/-- A name that is no system call of a target. -/
structure UnknownName where
  name : Bytes
  arch : Bytes
  deriving DecidableEq

/-- The wording for an unknown name. -/
def UnknownName.message (e : UnknownName) : Bytes :=
  utf8 "unknown syscall " ++ Text.quoted e.name ++ utf8 " on " ++ e.arch

/-- A number that is no system call of a target. -/
structure UnknownNumber where
  number : Int
  arch : Bytes
  deriving DecidableEq

/-- The wording for an unknown number. -/
def UnknownNumber.message (e : UnknownNumber) : Bytes :=
  utf8 "syscall no " ++ Numeral.signed e.number ++ utf8 " does not exist on " ++ e.arch

/-- The number of the system call with a name, spelt exactly. -/
def number (a : Arch) (name : Bytes) : Except UnknownName Nat :=
  match a.table.numberOf? name with
  | some n => .ok n
  | none => .error ⟨name, a.name⟩

/-- The name of the system call with a number. -/
def syscallName (a : Arch) (number : Int) : Except UnknownNumber Bytes :=
  match (if 0 ≤ number then a.table.nameOf? number.toNat else none) with
  | some name => .ok name
  | none => .error ⟨number, a.name⟩

end Arch

end SyscallFilter
