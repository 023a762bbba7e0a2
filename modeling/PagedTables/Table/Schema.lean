/-
# Schemas

The columns of a table, the number of leading ones that form its key, its key prefix and its
declared indexes. Only the first index, the one over the key columns, is kept up; the others are
recorded.

* `Schema.column`, `Schema.keys`, `Schema.index` : building a schema step by step;
* `Schema.check` : the first rule that a schema breaks, if any.
-/
import PagedTables.Value

namespace PagedTables

/-! ## Definition -/

/-- A named list of columns. -/
structure IndexDef where
  /-- The name of the index. -/
  name : String
  /-- The columns in order. -/
  columns : List String
  deriving DecidableEq, Repr, Inhabited

/-- The shape of a table. -/
structure Schema where
  /-- The name of the table. -/
  name : String
  /-- The names of the columns. -/
  columns : List String := []
  /-- The types of the columns, in the same order. -/
  types : List ColumnType := []
  /-- The number of leading columns that form the key. -/
  keyCount : Nat := 1
  /-- The prefix of the table's keys; zero until the table exists. -/
  keyPrefix : UInt32 := 0
  /-- The declared indexes; the first one is over the key. -/
  indexes : List IndexDef := []
  deriving DecidableEq, Repr, Inhabited

namespace Schema

/-- The name of the index over the key columns. -/
def primaryName : String := "primary"

/-- The columns of the key. -/
def keyColumns (s : Schema) : List String :=
  s.columns.take s.keyCount

/-- The index over the key columns. -/
def primaryIndex (s : Schema) : IndexDef :=
  ⟨primaryName, s.keyColumns⟩

/-- The position of a column. -/
def columnIndex? (s : Schema) (column : String) : Option Nat :=
  s.columns.findIdx? (· == column)

/-- The type of a column that the schema has, if it lists one for it. -/
def columnType? (s : Schema) (column : String) : Option ColumnType :=
  (s.columnIndex? column).bind (s.types[·]?)

/-! ## Building -/

/-- Brings the columns of the first index into line with the key, if it is the primary one. -/
def syncPrimary (s : Schema) : Schema :=
  match s.indexes with
  | first :: rest =>
    if first.name = primaryName then { s with indexes := ⟨first.name, s.keyColumns⟩ :: rest }
    else s
  | [] => s

/-- Adds a column. -/
def column (s : Schema) (name : String) (type : ColumnType) : Schema :=
  { s with columns := s.columns ++ [name], types := s.types ++ [type] }.syncPrimary

/-- Sets the number of key columns. -/
def keys (s : Schema) (n : Nat) : Schema :=
  { s with keyCount := n }.syncPrimary

/-- Declares the primary index, if there is no index yet. -/
def fillPrimary (s : Schema) : Schema :=
  if s.indexes.isEmpty then { s with indexes := [s.primaryIndex] } else s

/-- Declares an index; the first one declared comes after the primary index. -/
def index (s : Schema) (name : String) (columns : List String) : Schema :=
  let s := s.fillPrimary
  { s with indexes := s.indexes ++ [⟨name, columns⟩] }

/-! ## Rules -/

/-- Why a schema is refused. -/
inductive Fault where
  /-- The table has no name. -/
  | emptyName
  /-- There is no column. -/
  | noColumns
  /-- Columns and types are not equally many. -/
  | typeCount
  /-- The key has no column, or more columns than the table. -/
  | keyCount
  /-- A column has no name. -/
  | emptyColumnName
  /-- Two columns have one name. -/
  | duplicateColumn (name : String)
  /-- The first index is not over the key. -/
  | firstIndex
  /-- Two indexes have one name. -/
  | duplicateIndex (name : String)
  /-- An index has no column. -/
  | emptyIndex (name : String)
  /-- An index names a column that the table does not have. -/
  | unknownIndexColumn (index column : String)
  /-- The prefix is set before the table exists. -/
  | presetPrefix
  /-- Every prefix is in use. -/
  | prefixesExhausted
  deriving DecidableEq, Repr

/-- The wording of a fault. -/
def Fault.message : Fault → String
  | emptyName => "table name is empty"
  | noColumns => "table has no columns"
  | typeCount => "column and type counts differ"
  | keyCount => "primary key count is out of range"
  | emptyColumnName => "column name is empty"
  | duplicateColumn name => "duplicate column " ++ name
  | firstIndex => "first index must be the primary key"
  | duplicateIndex name => "duplicate index " ++ name
  | emptyIndex name => "index " ++ name ++ " has no columns"
  | unknownIndexColumn index column => "index " ++ index ++ " names unknown column " ++ column
  | presetPrefix => "prefix is assigned by the database"
  | prefixesExhausted => "table prefixes exhausted"

/-- Checks that columns are named, and named apart; `seen` are those before them. -/
def checkColumns (seen : List String) : List String → Except Fault Unit
  | [] => .ok ()
  | c :: rest =>
    if c.isEmpty then .error .emptyColumnName
    else if seen.contains c then .error (.duplicateColumn c)
    else checkColumns (c :: seen) rest

/-- Checks that indexes are named apart and list columns of the table; `seen` are the names of
those before them. -/
def checkIndexes (columns : List String) (seen : List String) : List IndexDef → Except Fault Unit
  | [] => .ok ()
  | i :: rest =>
    if seen.contains i.name then .error (.duplicateIndex i.name)
    else if i.columns.isEmpty then .error (.emptyIndex i.name)
    else
      match i.columns.find? fun c => !columns.contains c with
      | some c => .error (.unknownIndexColumn i.name c)
      | none => checkIndexes columns (i.name :: seen) rest

/-- Reports the first rule that the schema breaks. -/
def check (s : Schema) : Except Fault Unit := do
  if s.name.isEmpty then throw .emptyName
  if s.columns.isEmpty then throw .noColumns
  if s.columns.length ≠ s.types.length then throw .typeCount
  if s.keyCount < 1 ∨ s.columns.length < s.keyCount then throw .keyCount
  checkColumns [] s.columns
  if s.indexes.head?.any fun i => i.columns ≠ s.keyColumns then throw .firstIndex
  checkIndexes s.columns [] s.indexes

/-! ## Built-in tables -/

/-- The name of the table of database settings. -/
def settingsName : String := "@meta"

/-- The name of the table of schemas. -/
def catalogName : String := "@table"

/-- The least prefix of a table that is not built in. -/
def firstPrefix : UInt32 := 100

/-- The table of database settings, from key to value. -/
def settings : Schema :=
  { (({ name := settingsName } : Schema).column "key" .bytes).column "val" .bytes with
    keyPrefix := 1 }.fillPrimary

/-- The table of schemas, from the name of a table to its stored schema. -/
def catalog : Schema :=
  { (({ name := catalogName } : Schema).column "name" .bytes).column "def" .bytes with
    keyPrefix := 2 }.fillPrimary

/-- The built-in table of a name. -/
def builtIn? (name : String) : Option Schema :=
  if name = settingsName then some settings
  else if name = catalogName then some catalog
  else none

end Schema

end PagedTables
