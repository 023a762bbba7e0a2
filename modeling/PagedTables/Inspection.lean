/-
# Inspection

Questions about a database that change nothing: its tables, the schema of a table, the rows of a
table, and numbers about its store.

* `Inspection.run` : the answer as text.
-/
import PagedTables.Report.Basic
import PagedTables.Store.Durable
import PagedTables.Table.Database

namespace PagedTables

/-- A question about a database. -/
inductive Inspection where
  /-- Which tables there are. -/
  | tables
  /-- Which columns and indexes a table has. -/
  | schema (table : String)
  /-- Which rows a table has, up to a limit. -/
  | dump (table : String) (limit : Option Nat)
  /-- How large the store is. -/
  | stats
  deriving DecidableEq, Repr

/-! ## Numbers about stores -/

/-- A store that reports numbers about itself. -/
class Measured (κ : Type) extends Store κ where
  /-- The numbers by their names. -/
  numbers : κ → List (String × Json)

/-- The numbers about a store in a file. -/
def DurableStore.Stats.numbers (s : DurableStore.Stats) : List (String × Json) := [
  ("path", .text s.path),
  ("page_size", .nat s.pageSize),
  ("page_count", .nat s.pageCount),
  ("snapshot_pages", .nat s.snapshotPages),
  ("entries", .nat s.entries),
  ("free_pages", .nat s.freePages),
  ("reusable_pages", .nat s.reusablePages),
  ("free_list_head", .nat s.freeListHead),
  ("free_list_tail", .nat s.freeListTail)]

instance : Measured DurableStore where
  numbers s := s.stats.numbers

instance : Measured MemoryStore where
  numbers s := [("entries", .nat s.size)]

namespace Inspection

variable {κ : Type}

/-! ## Tables -/

/-- A list of names in one line. -/
def commaList (names : List String) : String :=
  ", ".intercalate names

/-- A table with its prefix, its columns and its key. -/
def tableRow (s : Schema) : List Json :=
  let columns := (s.columns.zip s.types).map fun (column, type) => column ++ " " ++ type.name
  [.text s.name, .nat s.keyPrefix.toNat, .text (commaList columns),
    .text (commaList s.keyColumns)]

/-- All tables that are not built in. -/
def tablesReport [Store κ] : Action DatabaseError (Database κ) Report := do
  let names ← Database.tableNames
  let schemas ← names.mapM Database.schemaOf
  return ⟨["name", "prefix", "columns", "primary_key"], schemas.map tableRow⟩

/-! ## Schemas -/

/-- The columns of a schema, and whether they belong to the key. -/
def columnsReport (s : Schema) : Report where
  columns := ["column", "type", "primary_key"]
  rows := (s.columns.zip s.types).mapIdx fun i (column, type) =>
    [.text column, .text type.name, .bool (decide (i < s.keyCount))]

/-- An index in one line. -/
def indexLine (i : IndexDef) : String :=
  "\nindex " ++ i.name ++ " (" ++ commaList i.columns ++ ")"

/-- A schema as text: its stored form, or its columns with its indexes below them. -/
def schemaText (s : Schema) : ReportFormat → String
  | .json => s.toJson.prettyText
  | .table => (columnsReport s).text .table ++ String.join (s.indexes.map indexLine)

/-! ## Rows -/

/-- The rows of a table in the order of their keys, at most as many as the limit says. -/
def rowsReport [Store κ] (table : String) (limit : Option Nat) :
    Action DatabaseError (Database κ) Report := do
  let s ← Database.schemaOf table
  let scan ← Database.scanTable table
  let rows ← Database.take (limit.getD scan.cursor.entries.size) scan
  return ⟨s.columns, rows.map fun r => r.values.map Value.toJson⟩

/-! ## Numbers -/

/-- The numbers about a store as text, in the order of their names. -/
def statsText [Measured κ] (store : κ) (format : ReportFormat) : String :=
  let numbers := OrderedMap.ofList (Measured.numbers store)
  match format with
  | .json => (Json.record numbers.toList).prettyText
  | .table =>
    let rows := numbers.toList.map fun (name, value) => [Json.text name, value]
    Report.text ⟨["metric", "value"], rows⟩ .table

/-! ## Answers -/

/-- The answer to a question as text. -/
def run [Measured κ] (question : Inspection) (format : ReportFormat) :
    Action DatabaseError (Database κ) String :=
  match question with
  | tables => return (← tablesReport).text format
  | schema table => return schemaText (← Database.schemaOf table) format
  | dump table limit => return (← rowsReport table limit).text format
  | stats => return statsText (← get).store format

end Inspection

end PagedTables
