/-
# The program

Reads the command line and the database file, and prints the answer.
-/
import PagedTables.CommandLine.Run

open PagedTables PagedTables.CommandLine

/-- What is found under a path of this computer. -/
def fileStatus (path : String) : IO FileStatus := do
  try
    let bytes ← IO.FS.readBinFile path
    return .present bytes.toList
  catch
    | .noFileOrDirectory .. => return .absent
    | _ => return .unreadable

/-- How a run ends. -/
def runArguments (arguments : List String) : IO Exit := do
  match Invocation.ofArguments arguments (← IO.getEnv "STRATA_DB") with
  | .error stop => return Exit.ofStop stop
  | .ok invocation => return invocation.run (← fileStatus invocation.database)

def main (arguments : List String) : IO UInt32 := do
  let exit ← runArguments arguments
  (← IO.getStdout).putStr exit.output
  (← IO.getStderr).putStr exit.complaint
  return UInt32.ofNat exit.code
