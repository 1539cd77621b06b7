import SyscallFilter.Files.Disk
import SyscallFilter.Flags
import SyscallFilter.Listing

/-! The compiler's command line: a policy goes in and bytecode comes out, while a log and a listing
    go to the error stream. A log line that is lost changes nothing; a listing that is lost, like
    any other failure, leaves the tree as it was.

    The command is written once for every system that it can run on: what it asks of one is a
    `System`. -/

namespace SyscallFilter.Tool.Compiler

open SyscallFilter Output Files Policy

/-! ### Arguments -/

/-- What the command is told by its flags. -/
structure Options where
  arch : Bytes := Arch.host
  emitter : Bytes := utf8 "native"
  verbose : Bool := false

/-- The flags of the command. -/
def flags : List Flags.Flag :=
  [{ name := utf8 "arch" }, { name := utf8 "emitter" },
    { name := utf8 "verbose", letter := some (Bytes.ascii 'v'), kind := .switch }]

/-- How the flags are used. -/
def flagUsage : List String :=
  ["      --arch string      target architecture (amd64, arm64, 386, ...) (default \"amd64\")\n",
    "      --emitter string   bytecode emitter: native, policy or libseccomp",
    " (default \"native\")\n",
    "  -v, --verbose          verbose logging\n"]

/-- How the command is used, in the pieces in which it is written. -/
def usage : List Bytes :=
  [utf8 "usage: seccompc [flags] <input-policy-file> <output-bpf-file>\n\nflags:\n",
    flagUsage.flatMap utf8]

/-- The texts of a misuse: what is wrong, if it can be said, and how the command is used. -/
def misuseTexts (mistake : Option Flags.Mistake) : List Bytes :=
  match mistake with
  | some m => (m.message ++ utf8 "\n") :: usage
  | none => usage

/-- What the arguments ask for. -/
inductive Request where
  | help
  | misuse (mistake : Option Flags.Mistake)
  | compile (options : Options) (input output : Bytes)

/-- The options that flags set. -/
def Options.ofParsed (p : Flags.Parsed) : Options :=
  let start : Options := {}
  { arch := (p.value? (utf8 "arch")).getD start.arch
    emitter := (p.value? (utf8 "emitter")).getD start.emitter
    verbose := p.isOn (utf8 "verbose") }

/-- The request that arguments make. -/
def Request.ofArguments (arguments : List Bytes) : Request :=
  match Flags.parse flags arguments with
  | .error .help => .help
  | .error (.mistake m) => .misuse (some m)
  | .ok p =>
    match p.arguments with
    | [input, output] => .compile (.ofParsed p) input output
    | _ => .misuse none

/-- The level from which the log is shown. -/
def Options.threshold (o : Options) : Log.Level := if o.verbose then .debug else .info

/-! ### Compilation -/

/-- Why the command fails. -/
inductive Failure where
  | source (path : Bytes) (cause : FileError)
  | compile (cause : CompileError)
  | close (path : Bytes) (cause : FileError)
  | listing (cause : Compilation.ListingError)
  | output (cause : ReplaceError)

/-- The wording of a failure. -/
def Failure.message : Failure → Bytes
  | .source path cause => pathMessage "open" path cause
  | .compile cause => cause.message
  | .close path cause => utf8 "close input: " ++ pathMessage "close" path cause
  | .listing cause => utf8 "write listing: " ++ cause.message
  | .output cause => cause.message

/-- Posts the entries of a log that are shown. -/
def postLog (threshold : Log.Level) (entries : List Log.Entry) (errors : Sink) : Sink :=
  (Log.shown threshold entries).foldl (fun s e => s.post e.line) errors

/-- Posts pieces of text. -/
def postAll (texts : List Bytes) (errors : Sink) : Sink := texts.foldl Sink.post errors

/-- The entry on the accounts of a compilation. -/
def statsEntry (input : Bytes) (stats : Stats) : Log.Entry :=
  ⟨.info, stats.text, [("input", input)]⟩

/-- The entry on the file that was written. -/
def wroteEntry (output : Bytes) : Log.Entry :=
  ⟨.info, utf8 "Wrote seccomp filter", [("output", output)]⟩

/-- The entry on a failure. -/
def failureEntry (e : Failure) : Log.Entry :=
  ⟨.error, utf8 "Failed to compile seccomp filter", [("error", e.message)]⟩

/-- The source that is read from a file. -/
def sourceOf (path : Bytes) (r : Reading) : Source :=
  [⟨r.content, r.failure.map fun cause => .failure (pathMessage "read" path cause)⟩]

/-- What compiling the input comes to. -/
def reportOf (o : Options) (input : Bytes) (r : Reading) : Report :=
  compile (sourceOf input r) { arch := o.arch, emitter := o.emitter }

/-! ### The command -/

/-- What the command asks of the system that it runs on. Actions of the system are an `m`. -/
structure System (m : Type → Type) where
  /-- Opens a file and reads it. -/
  readFile : (path : Bytes) → m (Except FileError Reading)
  /-- Lets something be written to the error stream. -/
  tell : {α : Type} → (Sink → α × Sink) → m α
  /-- Replaces the file that a path names. -/
  replace : (path : Bytes) → Writer → m (Option ReplaceError)

namespace System

variable {m : Type → Type} [Monad m] (system : System m)

/-- Writes texts to the error stream, whatever becomes of them. -/
def post (texts : List Bytes) : m Unit := system.tell fun errors => ((), postAll texts errors)

/-- Writes the entries of a log that are shown. -/
def log (o : Options) (entries : List Log.Entry) : m Unit :=
  system.tell fun errors => ((), postLog o.threshold entries errors)

/-- Compiles what was read from the input, and writes the log and the listing. -/
def prepare (o : Options) (input : Bytes) (r : Reading) : m (Except Failure Compilation) := do
  let report := reportOf o input r
  system.log o report.log
  match report.outcome, r.closing with
  | .error e, _ => return .error (.compile e)
  | .ok _, some cause => return .error (.close input cause)
  | .ok c, none =>
    system.log o [statsEntry input c.stats]
    match ← system.tell c.writeListing with
    | some e => return .error (.listing e)
    | none => return .ok c

/-- Compiles the input file, and writes the log and the listing. -/
def prepareFile (o : Options) (input : Bytes) : m (Except Failure Compilation) := do
  match ← system.readFile input with
  | .error cause => return .error (.source input cause)
  | .ok r => system.prepare o input r

/-- Compiles the input file to the output file. -/
def compileFile (o : Options) (input output : Bytes) : m (Option Failure) := do
  match ← system.prepareFile o input with
  | .error e => return some e
  | .ok c =>
    match ← system.replace output c.writeBytecode with
    | some e => return some (.output e)
    | none =>
      system.log o [wroteEntry output]
      return none

/-- Runs the command; gives its exit status. -/
def command (arguments : List Bytes) : m Nat := do
  match Request.ofArguments arguments with
  | .help =>
    system.post usage
    return 0
  | .misuse mistake =>
    system.post (misuseTexts mistake)
    return 2
  | .compile o input output =>
    match ← system.compileFile o input output with
    | none => return 0
    | some e =>
      system.log o [failureEntry e]
      return 1

end System

/-! ### The command on a tree -/

/-- The surroundings of a command: a tree of files on a disk, and the error stream. -/
structure Surroundings where
  tree : Tree
  disk : Disk
  errors : Sink := {}

/-- The system in which files are those of a tree. -/
def Surroundings.system : System (StateM Surroundings) where
  readFile path := fun s => (s.disk.readFile s.tree path, s)
  tell f := fun s =>
    let (answer, errors) := f s.errors
    (answer, { s with errors })
  replace path w := fun s =>
    let (failure, tree) := s.disk.replace s.tree path w
    (failure, { s with tree })

/-- Runs the command in surroundings; gives its exit status. -/
def run (arguments : List Bytes) (s : Surroundings) : Nat × Surroundings :=
  (Surroundings.system.command arguments).run s

end SyscallFilter.Tool.Compiler
