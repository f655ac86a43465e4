/-
# CommandLine.Program — from arguments to output

The program understands its arguments, sets up logging, reads the snapshot and prints the report
on it; asked for help, it prints that and does nothing else.  Each step can fail, and a failure
ends the program with a status of its own.  Reading a file is the caller's, and so is knowing
whether a terminal shows the output.
-/
import WalletView.CommandLine.Arguments
import WalletView.CommandLine.Help
import WalletView.Logging.Filter
import WalletView.Report.Text
import WalletView.Wallet.Slice

set_option autoImplicit false

namespace WalletView

/-- Why the program ends without a report. -/
inductive Failure where
  | usage (error : UsageError)
  | logging (error : LogError)
  /-- The filter for logging cannot even be looked at. -/
  | brokenFilter
  | snapshot (error : SnapshotError)
deriving DecidableEq, Repr

namespace Failure

/-- The status with which the program ends: 2 if the arguments make no sense, 101 if it breaks off
on the filter, else 1. -/
def status : Failure → UInt32
  | usage _ => 2
  | logging _ => 1
  | brokenFilter => 101
  | snapshot _ => 1

end Failure

/-- Checks the settings for logging. -/
def LogSettings.check (settings : LogSettings) : Except Failure Unit :=
  match LogFilter.check settings.level with
  | .ok () => .ok ()
  | .error .malformed => .error (.logging (.badFilter settings.level "invalid filter directive"))
  | .error .tornCharacter => .error .brokenFilter

/-- The report on a snapshot by services that remember nothing yet. -/
def reportOn (s : Snapshot Plain) (routeId : Option String) (origin : Option Origin) :
    Report Shared :=
  let report : Allocating (Report Shared × Reporter) := do
    let s ← s.share
    Reporter.new.report s routeId origin
  (report ⟨0⟩).1.1

/-- What is printed for a snapshot. -/
def Arguments.output (a : Arguments) (s : Snapshot Plain) : String :=
  let report := reportOn s a.routeId a.origin
  if a.json then report.encode.pretty ++ "\n" else report.text

/-- Runs the program and gives what it prints.  `readFile` gives the content of the file at a path. -/
def runProgram {m : Type → Type} [Monad m] (arguments : List String) (env : Environment)
    (onTerminal : Bool) (readFile : String → m (Except FileProblem ByteArray)) :
    m (Except Failure String) := do
  match Arguments.parse arguments env with
  | .error .helpRequested => return .ok (helpText env onTerminal)
  | .error error => return .error (.usage error)
  | .ok a =>
    match (LogSettings.ofEnvironment env).check with
    | .error failure => return .error failure
    | .ok () =>
      match Snapshot.ofFile a.snapshot (← readFile a.snapshot) with
      | .error error => return .error (.snapshot error)
      | .ok s => return .ok (a.output s)

end WalletView
