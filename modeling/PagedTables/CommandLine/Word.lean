/-
# Words of a command line

The arguments of a command line as a list of words: switches with their values, operands, and the
name of a command with the arguments that belong to it. Reading never fails; what cannot be read
becomes a word too, so that the words are judged in the order in which they were written.

* `Word.readAll` : the words that a list of arguments spells.
-/

namespace PagedTables.CommandLine

/-! ## Switches -/

/-- A switch. -/
inductive Switch where
  /-- Names the database file. -/
  | database
  /-- Names the form of the answer. -/
  | output
  /-- Asks for a log. -/
  | verbose
  /-- Bounds the number of rows. -/
  | limit
  /-- Asks for a description of the command line. -/
  | help
  /-- Asks for the version. -/
  | version
  deriving DecidableEq, Repr

/-- Tells whether a switch has a value. -/
def Switch.takesValue : Switch → Bool
  | database | output | limit => true
  | verbose | help | version => false

/-- A switch under its names. -/
structure SwitchNames where
  /-- The switch. -/
  switch : Switch
  /-- The name after two dashes. -/
  long : String
  /-- The letter after one dash. -/
  short : Option Char
  deriving DecidableEq, Repr

/-- What a command line may contain. -/
structure Grammar where
  /-- The switches. -/
  switches : List SwitchNames
  /-- Whether the first word that is no switch names a command. -/
  hasCommands : Bool

/-- The switch of a long name. -/
def Grammar.long? (g : Grammar) (name : String) : Option Switch :=
  (g.switches.find? fun n => n.long == name).map (·.switch)

/-- The switch of a letter. -/
def Grammar.short? (g : Grammar) (letter : Char) : Option Switch :=
  (g.switches.find? fun n => n.short == some letter).map (·.switch)

/-! ## Misuse -/

/-- Why a command line cannot be understood. -/
inductive Misuse where
  /-- There is no such switch. -/
  | unknownSwitch (name : String)
  /-- A switch lacks its value. -/
  | missingValue
  /-- A switch without value is given one. -/
  | superfluousValue
  /-- A switch is given twice. -/
  | repeatedSwitch
  /-- A value is none that its switch admits. -/
  | badValue (value : String)
  /-- There is nothing that an operand could name. -/
  | superfluousOperand (operand : String)
  /-- An operand is missing. -/
  | missingOperand
  /-- There is no such command. -/
  | unknownCommand (name : String)
  /-- There is no command. -/
  | missingCommand
  /-- There is no database file. -/
  | missingDatabase
  deriving DecidableEq, Repr

/-- The wording of a misuse. -/
def Misuse.message : Misuse → String
  | unknownSwitch name => "unknown option " ++ name
  | missingValue => "an option lacks its value"
  | superfluousValue => "an option takes no value"
  | repeatedSwitch => "an option is given twice"
  | badValue value => "unexpected value " ++ value
  | superfluousOperand operand => "unexpected argument " ++ operand
  | missingOperand => "a table must be named"
  | unknownCommand name => "unknown command " ++ name
  | missingCommand => "a command must be named"
  | missingDatabase => "a database file must be named"

/-! ## Words -/

/-- A part of a command line. -/
inductive Word where
  /-- A switch, with its value if it has one. -/
  | switch (s : Switch) (value : Option String)
  /-- An operand. -/
  | operand (text : String)
  /-- The name of a command, and the arguments after it. -/
  | command (name : String) (arguments : List String)
  /-- A part that cannot be read. -/
  | unreadable (fault : Misuse)
  deriving DecidableEq, Repr

/-- What a single argument looks like. -/
inductive Shape where
  /-- Two dashes: only operands follow. -/
  | delimiter
  /-- Two dashes and a name, perhaps with a value behind an equals sign. -/
  | long (name : String) (value : Option String)
  /-- One dash and letters. -/
  | short (letters : List Char)
  /-- Anything else, a single dash included. -/
  | plain
  deriving DecidableEq, Repr

/-- The text before and behind the first equals sign. -/
def splitAtEquals (s : List Char) : String × Option String :=
  let name := String.ofList (s.takeWhile (· != '='))
  match s.dropWhile (· != '=') with
  | [] => (name, none)
  | _ :: value => (name, some (String.ofList value))

/-- The shape of an argument. -/
def Shape.ofArgument (argument : String) : Shape :=
  match argument.toList with
  | ['-', '-'] => delimiter
  | '-' :: '-' :: rest => long (splitAtEquals rest).1 (splitAtEquals rest).2
  | '-' :: c :: rest => short (c :: rest)
  | _ => plain

namespace Word

/-- The words in the letters behind a dash, and a switch whose value is the next argument. The
value of a switch may follow its letter directly or behind an equals sign. -/
def ofLetters (g : Grammar) : List Char → List Word × Option Switch
  | [] => ([], none)
  | c :: rest =>
    match g.short? c with
    | none => ([.unreadable (.unknownSwitch ("-" ++ c.toString))], none)
    | some s =>
      if s.takesValue then
        match rest with
        | [] => ([], some s)
        | '=' :: value => ([.switch s (some (String.ofList value))], none)
        | value => ([.switch s (some (String.ofList value))], none)
      else
        let (words, waiting) := ofLetters g rest
        (.switch s none :: words, waiting)

/-- The word in a long name, or a switch whose value is the next argument. -/
def ofLong (g : Grammar) (name : String) (value : Option String) : List Word × Option Switch :=
  match g.long? name with
  | none => ([.unreadable (.unknownSwitch ("--" ++ name))], none)
  | some s =>
    match s.takesValue, value with
    | true, none => ([], some s)
    | false, some _ => ([.unreadable .superfluousValue], none)
    | _, value => ([.switch s value], none)

/-- Reads arguments; a waiting switch takes the next one as its value, unless that one starts
with a dash. -/
def read (g : Grammar) : Option Switch → List String → List Word
  | none, [] => []
  | some _, [] => [.unreadable .missingValue]
  | some s, a :: rest =>
    match Shape.ofArgument a with
    | .plain => .switch s (some a) :: read g none rest
    | _ => [.unreadable .missingValue]
  | none, a :: rest =>
    match Shape.ofArgument a with
    | .delimiter => rest.map .operand
    | .plain => if g.hasCommands then [.command a rest] else .operand a :: read g none rest
    | .long name value =>
      let (words, waiting) := ofLong g name value
      words ++ read g waiting rest
    | .short letters =>
      let (words, waiting) := ofLetters g letters
      words ++ read g waiting rest

/-- The words that a list of arguments spells. -/
def readAll (g : Grammar) (arguments : List String) : List Word :=
  read g none arguments

end Word

end PagedTables.CommandLine
