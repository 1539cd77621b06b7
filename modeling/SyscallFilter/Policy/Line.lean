import SyscallFilter.Bytes

/-! The lines of a policy. A line is a blank, a comment or the name of a system call; nothing is
    trimmed but the one newline at its end. -/

namespace SyscallFilter.Policy

open SyscallFilter

/-- The kinds of lines; a value that is none of them is invalid. -/
inductive Kind where
  | invalid
  | blank
  | comment
  | syscall
  deriving DecidableEq

/-- The kind with a number. -/
def Kind.ofNumber (n : Int) : Kind :=
  if n = 1 then .blank else if n = 2 then .comment else if n = 3 then .syscall else .invalid

/-- The name of a kind. -/
def Kind.text : Kind → Bytes
  | .invalid => utf8 "invalid"
  | .blank => utf8 "blank"
  | .comment => utf8 "comment"
  | .syscall => utf8 "syscall"

/-- What a line holds. -/
inductive Content where
  | blank
  | comment
  | syscall (name : Bytes)
  deriving DecidableEq

/-- The kind of a line's content. -/
def Content.kind : Content → Kind
  | .blank => .blank
  | .comment => .comment
  | .syscall _ => .syscall

/-- The name of the call, which only a line of that kind has. -/
def Content.name : Content → Bytes
  | .syscall name => name
  | _ => []

/-- The content of a line whose newline has been dropped. -/
def Content.ofText : Bytes → Content
  | [] => .blank
  | b :: rest => if b = Bytes.ascii '#' then .comment else .syscall (b :: rest)

/-- The content of a line as it stands in the policy. -/
def classify (raw : Bytes) : Content := .ofText raw.dropNewline

/-- A line of a policy. -/
structure Line where
  /-- The line's number, counted from one. -/
  number : Nat
  /-- The bytes of the line, with its newline if it has one. -/
  raw : Bytes
  content : Content
  deriving DecidableEq

end SyscallFilter.Policy
