/-
# Main — the command line

Prints the report on a snapshot.  A failure is told on the standard error output.
-/
import WalletView.CommandLine.Program

set_option autoImplicit false

namespace WalletView

/-- What is told about arguments that make no sense. -/
def UsageError.message : UsageError → String
  | missingSnapshot => "the snapshot is missing"
  | unknownArgument => "unexpected argument"
  | repeatedArgument => "an argument is given twice"
  | noValue => "a value is required"
  | needlessValue => "a value is given to a flag"
  | helpRequested => "help is asked for"

/-- What is told about a failure. -/
def Failure.message : Failure → String
  | usage error => "error: " ++ error.message ++ "\n\n" ++ Text.plain usageLine ++ "\n"
  | logging error => "Error: " ++ error.message ++ "\n"
  | brokenFilter => "error: a part of the log filter begins or ends within a character\n"
  | snapshot error => "Error: " ++ error.message ++ "\n"

/-- The problem that an error of the file system stands for. -/
def FileProblem.ofError : IO.Error → FileProblem
  | .noFileOrDirectory .. => .notFound
  | .inappropriateType .. => .isDirectory
  | error => .other (toString error)

/-- The content of a file. -/
def readFile (path : String) : IO (Except FileProblem ByteArray) := do
  try
    return .ok (← IO.FS.readBinFile path)
  catch error => return .error (.ofError error)

/-- The names of the variables that the program reads. -/
def variableNames : List String :=
  ["DS_ROUTE_ID", "DS_ORIGIN", "DS_SERVICE_NAME", "DS_LOG_LEVEL", "RUST_LOG", "DS_JSON_LOGS",
    "NO_COLOR", "CLICOLOR_FORCE", "CLICOLOR", "TERM", "CI"]

/-- The variables that the program reads. -/
def readEnvironment : IO Environment := do
  let values ← variableNames.mapM fun name => return (name, ← IO.getEnv name)
  return fun name => (values.lookup name).join

end WalletView

open WalletView in
def main (arguments : List String) : IO UInt32 := do
  let onTerminal ← (← IO.getStdout).isTty
  match ← runProgram arguments (← readEnvironment) onTerminal readFile with
  | .ok output =>
    IO.print output
    return 0
  | .error failure =>
    IO.eprint failure.message
    return failure.status
