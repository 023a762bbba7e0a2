/-
# Invocations

What a command line asks for: a question about a database, the file of the database, and the form
of the answer. The first word that is out of place decides, unless help or the version is asked
for before it.

    --db FILE  -o table|json  -v  COMMAND

* `Invocation.ofArguments` : the invocation that arguments and environment spell.
-/
import PagedTables.CommandLine.Word
import PagedTables.Inspection

namespace PagedTables.CommandLine

/-- A request to answer a question about the database in a file. -/
structure Invocation where
  /-- The database file. -/
  database : String
  /-- The form of the answer. -/
  format : ReportFormat
  /-- Whether a log is asked for. -/
  verbose : Bool
  /-- The question. -/
  question : Inspection
  deriving DecidableEq, Repr

/-- Why a command line leads to no invocation. -/
inductive Stop where
  /-- A description of the command line is asked for. -/
  | help
  /-- The version is asked for. -/
  | version
  /-- The command line cannot be understood. -/
  | misuse (fault : Misuse)
  deriving DecidableEq, Repr

/-! ## Values -/

/-- A value that its switch admits, or a misuse. -/
def admitted {α : Type} (value : String) (reading : Option α) : Except Stop α :=
  match reading with
  | some a => .ok a
  | none => .error (.misuse (.badValue value))

/-- A file name; it must not be empty. -/
def path? (value : String) : Option String :=
  if value.isEmpty then none else some value

/-- The form of an answer of a name. -/
def format? (value : String) : Option ReportFormat :=
  if value = "table" then some .table
  else if value = "json" then some .json
  else none

/-- The number that decimal digits spell, after a plus sign or without, if it fits a word. -/
def limit? (value : String) : Option Nat :=
  let digits := match value.toList with
    | '+' :: rest => rest
    | other => other
  if digits.isEmpty ∨ digits.any fun c => c < '0' ∨ '9' < c then none
  else
    let n := digits.foldl (fun n c => 10 * n + (c.toNat - '0'.toNat)) 0
    if n ≤ maxWord64 then some n else none

/-- Sets what is not set yet. -/
def setOnce {α : Type} (current : Option α) (value : α) : Except Stop (Option α) :=
  if current.isSome then .error (.misuse .repeatedSwitch) else .ok (some value)

/-! ## Commands -/

/-- What a command is told. -/
structure CommandWords where
  /-- The operands. -/
  operands : List String := []
  /-- The limit. -/
  limit : Option Nat := none

/-- The switch that asks for help. -/
def helpNames : SwitchNames := ⟨.help, "help", some 'h'⟩

/-- The switches of a command. -/
def commandGrammar (hasLimit : Bool) : Grammar where
  switches := (if hasLimit then [⟨.limit, "limit", some 'n'⟩] else []) ++ [helpNames]
  hasCommands := false

/-- Takes the words of a command one by one; there may be `most` operands. -/
def readCommand (most : Nat) : CommandWords → List Word → Except Stop CommandWords
  | w, [] => .ok w
  | _, .unreadable fault :: _ => .error (.misuse fault)
  | _, .switch .help _ :: _ => .error .help
  | w, .switch .limit (some value) :: rest => do
    let limit ← setOnce w.limit (← admitted value (limit? value))
    readCommand most { w with limit } rest
  | w, .operand text :: rest =>
    if w.operands.length < most then
      readCommand most { w with operands := w.operands ++ [text] } rest
    else .error (.misuse (.superfluousOperand text))
  | _, .command name _ :: _ => .error (.misuse (.superfluousOperand name))
  | _, .switch .. :: _ => .error (.misuse .superfluousValue)

/-- The only operand. -/
def onlyOperand (w : CommandWords) : Except Stop String :=
  match w.operands with
  | table :: _ => .ok table
  | [] => .error (.misuse .missingOperand)

/-- The names of the commands. -/
def commandNames : List String :=
  ["tables", "schema", "dump", "stats", "help"]

/-- The question that a command asks. -/
def readQuestion (name : String) (arguments : List String) : Except Stop Inspection :=
  let words (hasLimit : Bool) (most : Nat) :=
    readCommand most {} (Word.readAll (commandGrammar hasLimit) arguments)
  match name with
  | "tables" => do
    let _ ← words false 0
    return .tables
  | "schema" => return .schema (← onlyOperand (← words false 1))
  | "dump" => do
    let w ← words true 1
    return .dump (← onlyOperand w) w.limit
  | "stats" => do
    let _ ← words false 0
    return .stats
  | "help" =>
    match arguments with
    | [] => .error .help
    | [topic] =>
      .error (if commandNames.contains topic then .help else .misuse (.unknownCommand topic))
    | _ :: extra :: _ => .error (.misuse (.unknownCommand extra))
  | _ => .error (.misuse (.unknownCommand name))

/-! ## The whole line -/

/-- What stands before the command. -/
structure Settings where
  /-- The database file. -/
  database : Option String := none
  /-- The form of the answer. -/
  format : Option ReportFormat := none
  /-- Whether a log is asked for. -/
  verbose : Option Unit := none

/-- What may stand before the command. -/
def rootGrammar : Grammar where
  switches := [
    ⟨.database, "db", none⟩, ⟨.output, "output", some 'o'⟩, ⟨.verbose, "verbose", some 'v'⟩,
    helpNames, ⟨.version, "version", some 'V'⟩]
  hasCommands := true

/-- Takes the words of a command line one by one, and the question at their end. -/
def readSettings : Settings → List Word → Except Stop (Settings × Inspection)
  | _, [] => .error (.misuse .missingCommand)
  | _, .unreadable fault :: _ => .error (.misuse fault)
  | _, .switch .help _ :: _ => .error .help
  | _, .switch .version _ :: _ => .error .version
  | s, .switch .database (some value) :: rest => do
    let database ← setOnce s.database (← admitted value (path? value))
    readSettings { s with database } rest
  | s, .switch .output (some value) :: rest => do
    let format ← setOnce s.format (← admitted value (format? value))
    readSettings { s with format } rest
  | s, .switch .verbose none :: rest => do
    let verbose ← setOnce s.verbose ()
    readSettings { s with verbose } rest
  | s, .command name arguments :: _ =>
    (readQuestion name arguments).map fun question => (s, question)
  | _, .operand text :: _ => .error (.misuse (.superfluousOperand text))
  | _, .switch .. :: _ => .error (.misuse .superfluousValue)

/-- The database file from the command line, or else from the environment. -/
def databaseOf (s : Settings) (environment : Option String) : Except Stop String :=
  match s.database, environment with
  | some path, _ => .ok path
  | none, some path => admitted path (path? path)
  | none, none => .error (.misuse .missingDatabase)

/-- The invocation that arguments spell; the environment may name a database file. -/
def Invocation.ofArguments (arguments : List String) (environment : Option String) :
    Except Stop Invocation := do
  let (s, question) ← readSettings {} (Word.readAll rootGrammar arguments)
  let database ← databaseOf s environment
  return ⟨database, s.format.getD .table, s.verbose.isSome, question⟩

end PagedTables.CommandLine
