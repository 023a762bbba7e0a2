/-
# Running a command line

What a run writes and how it ends, given its arguments and what is found under the path of the
database file.

* `Invocation.run` : answers the question of an invocation;
* `Exit.ofArguments` : the end of a run.
-/
import PagedTables.CommandLine.Invocation
import PagedTables.Table.Opening

namespace PagedTables.CommandLine

/-- The end of a run. -/
structure Exit where
  /-- The exit code: zero for success, one for a failure, two for a misuse. -/
  code : Nat
  /-- The text of the answer. -/
  output : String
  /-- The text of the complaint. -/
  complaint : String
  deriving DecidableEq, Repr

namespace Exit

/-- The name and the version of the program. -/
def versionText : String :=
  "strata 0.1.0\n"

/-- A description of the command line. -/
def helpText : String :=
  "Inspect StrataDB database files\n\n" ++
  "Usage: strata [OPTIONS] --db <FILE> <COMMAND>\n\n" ++
  "Commands:\n" ++
  "  tables                    List tables with their prefixes and columns\n" ++
  "  schema <TABLE>            Show the schema of a table\n" ++
  "  dump [-n LIMIT] <TABLE>   Print the rows of a table in primary-key order\n" ++
  "  stats                     Show page, entry and free-list statistics\n" ++
  "  help                      Print this message\n\n" ++
  "Options:\n" ++
  "      --db <FILE>           Database file\n" ++
  "  -o, --output <OUTPUT>     Output format: table or json\n" ++
  "  -v, --verbose             Enable verbose output\n" ++
  "  -h, --help                Print help\n" ++
  "  -V, --version             Print version\n"

/-- The end of a run without an invocation. -/
def ofStop : Stop → Exit
  | .help => ⟨0, helpText, ""⟩
  | .version => ⟨0, versionText, ""⟩
  | .misuse fault => ⟨2, "", "error: " ++ fault.message ++ "\n"⟩

/-- The end of a run that has failed for a chain of reasons, each caused by the next one. -/
def failure (reasons : List String) : Exit :=
  ⟨1, "", "Error: " ++ ": ".intercalate reasons ++ "\n"⟩

/-- The end of a run with an answer. -/
def success (answer : String) : Exit :=
  ⟨0, answer ++ "\n", ""⟩

end Exit

namespace Invocation

/-- The options under which a file is inspected: no file is created. -/
def options : StoreOptions :=
  { createIfMissing := false }

/-- Answers the question of an invocation, given what is found under the path of its database
file. -/
def run (i : Invocation) (status : FileStatus) : Exit :=
  match Database.open ⟨i.database, options⟩ status with
  | .error e => Exit.failure (("cannot open " ++ i.database) :: e.chain)
  | .ok db =>
    match (Action.outcome (i.question.run i.format) db).1 with
    | .ok answer => Exit.success answer
    | .error e => Exit.failure e.chain

end Invocation

/-- The end of a run, given what is found under every path. -/
def Exit.ofArguments (arguments : List String) (environment : Option String)
    (status : String → FileStatus) : Exit :=
  match Invocation.ofArguments arguments environment with
  | .error stop => Exit.ofStop stop
  | .ok i => i.run (status i.database)

end PagedTables.CommandLine
