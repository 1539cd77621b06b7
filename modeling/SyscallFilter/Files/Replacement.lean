import SyscallFilter.Files.Tree
import SyscallFilter.Numeral
import SyscallFilter.Output.Sink

/-! Replacing a file as a whole. The new content goes to a temporary file in the same directory,
    which takes the place of the target once it is complete. Whatever goes wrong, the temporary file
    is removed and the target keeps what it had.

    This is written once for every system that has files: what it takes to make, fill and move a
    file is a `FileSystem`. -/

namespace SyscallFilter.Files

open SyscallFilter Output

/-- What writes the content of a file: it writes to a sink, and reports a loss or none. -/
abbrev Writer := Sink → Option Loss × Sink

/-- What a system does with new files. Actions of the system are an `m`, and its open files are in
    `F`. -/
structure FileSystem (m : Type → Type) (F : Type) where
  /-- Draws a number for the name of a temporary file, after a number of others. -/
  draw : (tried : Nat) → m UInt32
  /-- Makes a file that is not there yet, and opens it. -/
  create : (path : Bytes) → m (Except FileError F)
  /-- Lets a writer write to a file. -/
  write : F → Writer → m (Option Loss)
  /-- Waits until what was written is on the disk. -/
  sync : F → m (Option FileError)
  /-- Lets everyone read a file. -/
  grant : F → m (Option FileError)
  close : F → m (Option FileError)
  /-- Moves a file to a path, where it takes the place of another. -/
  rename : F → (path : Bytes) → m (Option FileError)
  /-- Closes a file and takes it away. -/
  remove : F → m Unit

/-- Why a file was not replaced. -/
inductive ReplaceError where
  /-- The name for the temporary file would be a path. -/
  | separator (pattern : Bytes)
  /-- The temporary file could not be made. -/
  | create (temporary : Bytes) (cause : FileError)
  /-- Every name tried for the temporary file was taken. -/
  | crowded (pattern : Bytes)
  /-- The content could not be written. -/
  | write (path : Bytes) (loss : Loss)
  /-- The content did not get to the disk. -/
  | sync (path temporary : Bytes) (cause : FileError)
  /-- The rights of the temporary file could not be set. -/
  | grant (path temporary : Bytes) (cause : FileError)
  | close (path temporary : Bytes) (cause : FileError)
  /-- The temporary file could not take the place of the target. -/
  | rename (temporary path : Bytes) (cause : FileError)
  deriving DecidableEq

/-- The wording of a replace error. -/
def ReplaceError.message : ReplaceError → Bytes
  | .separator pattern =>
    utf8 "create output: createtemp " ++ pattern ++ utf8 ": pattern contains path separator"
  | .create temporary cause => utf8 "create output: " ++ pathMessage "open" temporary cause
  | .crowded pattern => utf8 "create output: " ++ pathMessage "createtemp" pattern .exists
  | .write path loss => utf8 "write " ++ path ++ utf8 ": " ++ loss.message
  | .sync path temporary cause =>
    utf8 "sync " ++ path ++ utf8 ": " ++ pathMessage "sync" temporary cause
  | .grant path temporary cause =>
    utf8 "chmod " ++ path ++ utf8 ": " ++ pathMessage "chmod" temporary cause
  | .close path temporary cause =>
    utf8 "close " ++ path ++ utf8 ": " ++ pathMessage "close" temporary cause
  | .rename temporary path cause =>
    utf8 "rename output: rename " ++ temporary ++ utf8 " " ++ path ++ utf8 ": " ++ cause.message

/-! ### The temporary file -/

/-- The name of a temporary file for a target, up to its number. -/
def temporaryName (path : Bytes) : Bytes := utf8 "." ++ baseOf path ++ utf8 ".tmp"

/-- The path of a temporary file for a target, up to its number. -/
def temporaryStem (path : Bytes) : Bytes := child (directoryOf path) (temporaryName path)

/-- The path of the temporary file with a number. -/
def temporaryPath (path : Bytes) (number : UInt32) : Bytes :=
  temporaryStem path ++ Numeral.decimal number.toNat

/-- How many names are tried for a temporary file. -/
def maxAttempts : Nat := 10000

/-- Takes steps, up to the first that fails. -/
def firstFailure {m : Type → Type} [Monad m] {E : Type} : List (m (Option E)) → m (Option E)
  | [] => return none
  | step :: rest => do
    match ← step with
    | some e => return some e
    | none => firstFailure rest

namespace FileSystem

variable {m : Type → Type} [Monad m] {F : Type} (files : FileSystem m F)

/-- Makes a temporary file under the first name that is free, of those that are left to be tried
    after a number of others; gives its path too. -/
def tryNames (path : Bytes) (tried : Nat) : (left : Nat) → m (Except ReplaceError (Bytes × F))
  | 0 => return .error (.crowded (temporaryStem path ++ utf8 "*"))
  | left + 1 => do
    let temporary := temporaryPath path (← files.draw tried)
    match ← files.create temporary with
    | .ok file => return .ok (temporary, file)
    | .error .exists => tryNames path (tried + 1) left
    | .error cause => return .error (.create temporary cause)

/-- Makes a temporary file for a target. -/
def createTemporary (path : Bytes) : m (Except ReplaceError (Bytes × F)) :=
  if slash ∈ temporaryName path then
    return .error (.separator (temporaryName path ++ utf8 "*"))
  else files.tryNames path 0 maxAttempts

/-! ### The target -/

/-- Fills a temporary file and lets it take the place of the target. -/
def fill (path : Bytes) (w : Writer) (temporary : Bytes) (file : F) : m (Option ReplaceError) :=
  firstFailure
    [Option.map (.write path) <$> files.write file w,
      Option.map (.sync path temporary) <$> files.sync file,
      Option.map (.grant path temporary) <$> files.grant file,
      Option.map (.close path temporary) <$> files.close file,
      Option.map (.rename temporary path) <$> files.rename file path]

/-- Replaces the file that a path names. -/
def replace (path : Bytes) (w : Writer) : m (Option ReplaceError) := do
  match ← files.createTemporary path with
  | .error e => return some e
  | .ok (temporary, file) =>
    let failure ← files.fill path w temporary file
    if failure.isSome then files.remove file
    return failure

end FileSystem

end SyscallFilter.Files
