import SyscallFilter.Filter
import SyscallFilter.Emit.Emitter
import SyscallFilter.Compile
import SyscallFilter.Listing
import SyscallFilter.Tool.Compiler
import SyscallFilter.Tool.Dump
import SyscallFilter.Main
import SyscallFilter.Proofs.Reading
import SyscallFilter.Proofs.Lines
import SyscallFilter.Proofs.Execution
import SyscallFilter.Proofs.Storage
import SyscallFilter.Proofs.Building
import SyscallFilter.Proofs.LinearForm
import SyscallFilter.Proofs.LinearVerdicts
import SyscallFilter.Proofs.Tables
import SyscallFilter.Proofs.Compilation
import SyscallFilter.Proofs.Replacement
import SyscallFilter.Proofs.Command
import SyscallFilter.Proofs.GroupedForm
import SyscallFilter.Proofs.Accounts
import SyscallFilter.Proofs.Bytecode
import SyscallFilter.Proofs.SameNames
import SyscallFilter.Proofs.Audit
import SyscallFilter.Proofs.ListedRules
import SyscallFilter.Proofs.Failures
import SyscallFilter.Proofs.Rendering
import SyscallFilter.Proofs.LostOutput
import SyscallFilter.Proofs.Reassembly
import SyscallFilter.Proofs.RecordLayout
import SyscallFilter.Proofs.Termination
import SyscallFilter.Proofs.SideBySide
import SyscallFilter.Proofs.RefusedWrite
import SyscallFilter.Proofs.Lookups
