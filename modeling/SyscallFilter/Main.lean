import SyscallFilter.Tool.Compiler
import SyscallFilter.Tool.Dump

/-! The program: its first argument is `compile` or `dump` and names the command, and the others are
    the command's own. Files and streams are those of the operating system; what is done with them
    is decided by the commands. -/

namespace SyscallFilter.Program

open SyscallFilter Output Files Tool

/-- Bytes as the operating system takes them. -/
def packed (bytes : Bytes) : ByteArray := ByteArray.mk bytes.toArray

/-- A path as the operating system takes it. -/
def pathText (path : Bytes) : String := (String.fromUTF8? (packed path)).getD ""

/-- The cause of a failed access. -/
def causeOf : IO.Error → FileError
  | .noFileOrDirectory .. => .notFound
  | .alreadyExists .. => .exists
  | .inappropriateType _ 20 _ => .notDirectory
  | .inappropriateType .. => .isDirectory
  | .permissionDenied _ _ details => .other (utf8 details)
  | .resourceExhausted _ _ details => .other (utf8 details)
  | .hardwareFault _ details => .other (utf8 details)
  | e => .other (utf8 e.toString)

/-- Tries something; gives the cause if it fails. -/
def attempt (action : IO Unit) : IO (Option FileError) := do
  try
    action
    return none
  catch e => return some (causeOf e)

/-! ### Reading -/

/-- Reads an open file to its end or to a failure. -/
def readOpen (handle : IO.FS.Handle) : IO Reading := do
  let mut content := ByteArray.empty
  repeat
    try
      let piece ← handle.read 4096
      if piece.isEmpty then break
      content := content ++ piece
    catch e => return { content := content.toList, failure := some (causeOf e) }
  return { content := content.toList }

/-- Opens a file and reads it. -/
def readFile (path : Bytes) : IO (Except FileError Reading) := do
  try
    let handle ← IO.FS.Handle.mk (pathText path) .read
    return .ok (← readOpen handle)
  catch e => return .error (causeOf e)

/-! ### Writing -/

/-- A destination of output, which takes a piece or throws. -/
abbrev Destination := ByteArray → IO Unit

/-- Writes a piece, whatever becomes of it. -/
def emit (write : Destination) (piece : Bytes) : IO Unit := discard (attempt (write (packed piece)))

/-- Writes pieces, up to the first that is not taken; gives the number of that piece and the cause.
    -/
def writePieces (write : Destination) (number : Nat) : List Bytes → IO (Option (Nat × FileError))
  | [] => return none
  | piece :: rest => do
    match ← attempt (write (packed piece)) with
    | some cause => return some (number, cause)
    | none => writePieces write (number + 1) rest

/-- Lets something be written to a destination under a path. What it writes is known from a sink
    that takes everything. If a piece is not taken, it is asked again what it does in that case, and
    the pieces that it writes behind the refused one are written too. -/
def deliver {α : Type} (write : Destination) (path : Bytes) (f : Sink → α × Sink) : IO α := do
  let (answer, sink) := f {}
  match ← writePieces write 0 sink.pieces.reverse with
  | none => return answer
  | some (number, cause) =>
    let loss := Loss.reported (pathMessage "write" path cause)
    let (answer, sink) := f { capacity := .refusing number loss }
    for piece in sink.pieces.reverse.drop number do emit write piece
    return answer

/-! ### Replacing -/

/-- A new file. A handle is closed when it is no longer in use. -/
structure NewFile where
  path : Bytes
  handle : IO.FS.Handle

/-- Hands a piece over to the operating system at once. -/
def NewFile.write (file : NewFile) : Destination := fun piece => do
  file.handle.write piece
  file.handle.flush

/-- What everyone may do with the output: its owner reads and writes it, and others read it. -/
def outputRights : IO.FileRight where
  user := { read := true, write := true }
  group := { read := true }
  other := { read := true }

/-- The files of the operating system. The library has nothing that waits for the disk, so a file is
    in sync as soon as its handle has nothing left. -/
def files : FileSystem IO NewFile where
  draw _ := return .ofNat (← IO.rand 0 0xffffffff)
  create path := do
    try
      return .ok { path, handle := ← IO.FS.Handle.mk (pathText path) .writeNew }
    catch e => return .error (causeOf e)
  write file w := deliver file.write file.path w
  sync file := attempt file.handle.flush
  grant file := attempt (IO.setAccessRights (pathText file.path) outputRights)
  close _ := return none
  rename file path := do
    match ← attempt (IO.FS.rename (pathText file.path) (pathText path)) with
    | some .isDirectory => return some .exists
    | failure => return failure
  remove file := discard (attempt (IO.FS.removeFile (pathText file.path)))

/-! ### Commands -/

/-- The operating system, as the compiler sees it. -/
def system (errors : IO.FS.Stream) : Compiler.System IO where
  readFile := readFile
  tell := deliver errors.write (utf8 "/dev/stderr")
  replace := files.replace

/-- Runs the compiler. -/
def runCompiler (arguments : List Bytes) : IO UInt32 := do
  return .ofNat (← (system (← IO.getStderr)).command arguments)

/-- Runs the audit command. -/
def runDump (arguments : List Bytes) : IO UInt32 := do
  let request := Dump.Request.ofArguments arguments
  let content : Except Dump.Failure Bytes ← do
    match request with
    | .dump _ path _ => pure (Dump.contentOf path (← readFile path))
    | _ => pure (.ok [])
  let outcome := request.answer fun _ => content
  emit (← IO.getStdout).write outcome.output
  emit (← IO.getStderr).write outcome.errors
  return .ofNat outcome.status

end SyscallFilter.Program

open SyscallFilter in
/-- Runs the command that the first argument names. -/
def main : List String → IO UInt32
  | "compile" :: rest => Program.runCompiler (rest.map utf8)
  | "dump" :: rest => Program.runDump (rest.map utf8)
  | _ => do
    IO.eprintln "usage: compile or dump, then the arguments of the command"
    return 2
