import SyscallFilter.Files.Tree
import SyscallFilter.Flags
import SyscallFilter.Listing

/-! The audit command: it takes bytecode apart into a listing and tells what the filter does with
    the system calls that it is asked about, by name or by number. -/

namespace SyscallFilter.Tool.Dump

open SyscallFilter Files

/-! ### Arguments -/

/-- The flags of the command. -/
def flags : List Flags.Flag :=
  [{ name := utf8 "arch" }, { name := utf8 "syscall", letter := some (Bytes.ascii 's') }]

/-- How the command is used. -/
def usage : Bytes :=
  ["usage: bpfdump [flags] <bpf-file>\n\nflags:\n",
    "      --arch string           architecture the program was compiled for",
    " (default \"amd64\")\n",
    "  -s, --syscall stringArray   evaluate the program for this syscall (repeatable)\n"].flatMap
    utf8

/-- What the arguments ask for. -/
inductive Request where
  | help
  | misuse (mistake : Option Flags.Mistake)
  | dump (arch path : Bytes) (calls : List Bytes)

/-- The request that arguments make. -/
def Request.ofArguments (arguments : List Bytes) : Request :=
  match Flags.parse flags arguments with
  | .error .help => .help
  | .error (.mistake m) => .misuse (some m)
  | .ok p =>
    match p.arguments with
    | [path] =>
      .dump ((p.value? (utf8 "arch")).getD Arch.host) path (p.values (utf8 "syscall"))
    | _ => .misuse none

/-! ### The listing -/

/-- Why the command fails. -/
inductive Failure where
  | arch (cause : Arch.LookupError)
  | open (path : Bytes) (cause : FileError)
  | read (path : Bytes) (cause : FileError)
  | length (cause : Filter.LengthError)
  | unknownInstructions
  | number (cause : Arch.UnknownNumber)
  | name (cause : Arch.UnknownName)
  | evaluation (cause : Filter.EvaluationError)

/-- The wording of a failure. -/
def Failure.message : Failure → Bytes
  | .arch cause => cause.message
  | .open path cause => pathMessage "open" path cause
  | .read path cause => pathMessage "read" path cause
  | .length cause => cause.message
  | .unknownInstructions => Filter.unknownMessage
  | .number cause => cause.message
  | .name cause => cause.message
  | .evaluation cause => cause.message

/-- The name and number of a call that is given by either. What reads as a number is one. -/
def lookupCall (a : Arch) (call : Bytes) : Except Failure (Bytes × Int) :=
  match Numeral.readInt? call with
  | some n =>
    match a.syscallName n with
    | .ok name => .ok (name, n)
    | .error cause => .error (.number cause)
  | none =>
    match a.number call with
    | .ok n => .ok (call, n)
    | .error cause => .error (.name cause)

/-- The line on a call. -/
def callLine (name : Bytes) (number : Int) (verdict : UInt32) : Bytes :=
  name ++ utf8 " (" ++ Numeral.signed number ++ utf8 "): " ++ Verdict.text verdict ++ utf8 " (" ++
    Numeral.wordHex verdict ++ utf8 ")\n"

/-- What the filter does with one call. -/
def judge (a : Arch) (f : Filter) (call : Bytes) : Except Failure Bytes :=
  match lookupCall a call with
  | .error e => .error e
  | .ok (name, number) =>
    match f.evaluate { number := .ofInt number, arch := a.auditId } with
    | .error cause => .error (.evaluation cause)
    | .ok verdict => .ok (callLine name number verdict)

/-- What the filter does with calls, up to the first on which nothing can be said. -/
def judgeAll (a : Arch) (f : Filter) : List Bytes → Bytes × Option Failure
  | [] => ([], none)
  | call :: rest =>
    match judge a f call with
    | .error e => ([], some e)
    | .ok line =>
      let more := judgeAll a f rest
      (line ++ more.1, more.2)

/-- The listing of a program. -/
def programText (a : Arch) (path : Bytes) (program : List Bpf.Instruction) : Bytes :=
  utf8 "# " ++ path ++ utf8 ": " ++ Numeral.decimal program.length ++ utf8 " instructions for " ++
    a.text ++ utf8 "\n" ++
    (program.mapIdx fun index i => numberedInstruction index i ++ utf8 "\n").flatten

/-- The listing of bytecode, and what it does with calls; on failure, the part before it. -/
def dumpBytes (a : Arch) (path bytes : Bytes) (calls : List Bytes) : Bytes × Option Failure :=
  match Filter.decode bytes a.order with
  | .error cause => ([], some (.length cause))
  | .ok f =>
    match f.disassemble? with
    | none => ([], some .unknownInstructions)
    | some program =>
      let verdicts := judgeAll a f calls
      (programText a path program ++ verdicts.1, verdicts.2)

/-- The content of a file, if it could be read to its end. -/
def contentOf (path : Bytes) : Except FileError Reading → Except Failure Bytes
  | .error cause => .error (.open path cause)
  | .ok r =>
    match r.failure with
    | some cause => .error (.read path cause)
    | none => .ok r.content

/-- The content of the file that a path leads to. -/
def readFile (t : Tree) (path : Bytes) : Except Failure Bytes := contentOf path (t.readFile path)

/-- Dumps a file whose content is found by `read`. -/
def dumpFile (read : Bytes → Except Failure Bytes) (arch path : Bytes) (calls : List Bytes) :
    Bytes × Option Failure :=
  match Arch.lookup arch with
  | .error cause => ([], some (.arch cause))
  | .ok a =>
    match read path with
    | .error e => ([], some e)
    | .ok bytes => dumpBytes a path bytes calls

/-! ### The command -/

/-- What a run of the command gives. -/
structure Outcome where
  status : Nat
  output : Bytes := []
  errors : Bytes := []

/-- The entry on a failure. -/
def failureEntry (e : Failure) : Log.Entry :=
  ⟨.error, utf8 "Failed to dump seccomp filter", [("error", e.message)]⟩

/-- What a dump comes to. -/
def Outcome.ofDump : Bytes × Option Failure → Outcome
  | (output, none) => ⟨0, output, []⟩
  | (output, some e) => ⟨1, output, (failureEntry e).line⟩

/-- Answers a request, with files found by `read`. -/
def Request.answer (read : Bytes → Except Failure Bytes) : Request → Outcome
  | .help => ⟨0, [], usage⟩
  | .misuse none => ⟨2, [], usage⟩
  | .misuse (some m) => ⟨2, [], m.message ++ utf8 "\n" ++ usage⟩
  | .dump arch path calls => .ofDump (dumpFile read arch path calls)

/-- Runs the command on a tree. -/
def run (arguments : List Bytes) (t : Tree) : Outcome :=
  (Request.ofArguments arguments).answer (readFile t)

end SyscallFilter.Tool.Dump
