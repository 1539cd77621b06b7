import SyscallFilter.Text.Quoted

/-! Log entries, one line each: a level, a message and labelled values in the order of their labels.
    A value of plain characters stands as it is; any other is quoted.

        level=warning msg="Cannot resolve syscall, skipping" line=5 syscall=bogus -/

namespace SyscallFilter.Log

open SyscallFilter

/-- How grave an entry is. -/
inductive Level where
  | debug
  | info
  | warning
  | error
  deriving DecidableEq

/-- The levels in order, the least grave first. -/
def Level.rank : Level → Nat
  | .debug => 0
  | .info => 1
  | .warning => 2
  | .error => 3

/-- The name of a level. -/
def Level.text : Level → Bytes
  | .debug => utf8 "debug"
  | .info => utf8 "info"
  | .warning => utf8 "warning"
  | .error => utf8 "error"

/-- An entry of the log. -/
structure Entry where
  level : Level
  message : Bytes
  /-- Labelled values, in the order of the labels. -/
  fields : List (String × Bytes) := []
  deriving DecidableEq

/-- Whether a byte may stand in a value without quotation marks. -/
def isPlain (b : UInt8) : Bool :=
  let c := Char.ofNat b.toNat
  b < 0x80 && (c.isAlphanum || c ∈ ['-', '.', '_', '/', '@', '^', '+'])

/-- A value as an entry shows it. -/
def value (v : Bytes) : Bytes := if v.all isPlain then v else Text.quoted v

/-- A labelled value. -/
def labelled (label : String) (v : Bytes) : Bytes := utf8 label ++ utf8 "=" ++ value v

/-- The line of an entry, with its newline. -/
def Entry.line (e : Entry) : Bytes :=
  Bytes.join (utf8 " ")
    (labelled "level" e.level.text :: labelled "msg" e.message ::
      e.fields.map fun f => labelled f.1 f.2) ++ [Bytes.newline]

/-- Whether an entry is shown when the log starts at a level. -/
def Entry.isShown (threshold : Level) (e : Entry) : Bool := threshold.rank ≤ e.level.rank

/-- The entries that a log from a level on shows. -/
def shown (threshold : Level) (entries : List Entry) : List Entry :=
  entries.filter (·.isShown threshold)

/-- The text of a log from a level on. -/
def text (threshold : Level) (entries : List Entry) : Bytes :=
  (shown threshold entries).flatMap (·.line)

end SyscallFilter.Log
