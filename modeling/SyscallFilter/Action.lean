import SyscallFilter.Bytes

/-! What a filter does with a system call: the actions that rules are written with, and the verdict
    words that a filter program answers with. -/

namespace SyscallFilter

/-- What happens to a system call. -/
inductive Action where
  | invalid
  | allow
  | kill
  deriving DecidableEq

namespace Action

/-- The action with the given number. -/
def ofNumber (n : UInt32) : Action :=
  if n = 1 then .allow else if n = 2 then .kill else .invalid

/-- The name of an action. -/
def text : Action → Bytes
  | .invalid => utf8 "invalid"
  | .allow => utf8 "allow"
  | .kill => utf8 "kill_process"

end Action

namespace Verdict

/-- The word that lets a call pass. -/
def allow : UInt32 := 0x7fff0000

/-- The word that ends the calling process. -/
def killProcess : UInt32 := 0x80000000

/-- The word that ends the calling thread. -/
def killThread : UInt32 := 0

/-- The word that makes a call fail as one that does not exist. -/
def noSuchCall : UInt32 := 0x00050026

/-- The part of a verdict word that holds the action. -/
def actionMask : UInt32 := 0xffff0000

/-- The name of the action in a verdict word. -/
def text (word : UInt32) : Bytes :=
  if word &&& actionMask = allow then Action.allow.text
  else if word &&& actionMask = killProcess then Action.kill.text
  else if word &&& actionMask = killThread then utf8 "kill_thread"
  else utf8 "unknown"

end Verdict

/-- The verdict word of an action. Whatever is not allowed kills the process, so that an invalid
    action never lets a call pass. -/
def Action.verdict : Action → UInt32
  | .allow => Verdict.allow
  | .invalid => Verdict.killProcess
  | .kill => Verdict.killProcess

end SyscallFilter
