/-
# Reports

The answer to a question about a database: named columns and rows of JSON values, written as a
grid or as JSON.

* `Report.toJson` : a list of objects;
* `Report.toGrid` : a grid under the names of the columns.
-/
import PagedTables.Json.Printer
import PagedTables.Report.Grid
import PagedTables.Value

namespace PagedTables

/-- How a report is written. -/
inductive ReportFormat where
  /-- As a grid. -/
  | table
  /-- As JSON. -/
  | json
  deriving DecidableEq, Repr, Inhabited

/-- Named columns and rows of values. A row may be shorter or longer than the list of names. -/
structure Report where
  /-- The names of the columns. -/
  columns : List String
  /-- The values of the rows. -/
  rows : List (List Json)

/-- A value of a table as JSON: a number, or the text of a byte string. -/
def Value.toJson : Value → Json
  | int64 n => Json.int n.toInt
  | bytes b => Json.text (text (bytes b))

namespace Report

/-! ## As JSON -/

/-- The name of a column; columns without a name are numbered. -/
def columnName (r : Report) (i : Nat) : String :=
  r.columns[i]?.getD ("column_" ++ toString i)

/-- A row as an object. -/
def rowObject (r : Report) (row : List Json) : Json :=
  Json.record (row.mapIdx fun i value => (r.columnName i, value))

/-- All rows as objects with sorted fields. -/
def toJson (r : Report) : Json :=
  (Json.array (r.rows.map r.rowObject)).sorted

/-! ## As a grid -/

/-- The text of a cell: a string without its quotes, nothing for null, and compact JSON for
everything else. -/
def cellText : Json → String
  | .string b => Bytes.toTextLossy b
  | .null => ""
  | value => value.sorted.compactText

/-- The rows under the names of the columns, if there are any names. -/
def toGrid (r : Report) : Grid where
  header := if r.columns.isEmpty then none else some r.columns
  rows := r.rows.map (List.map cellText)

/-- The report as text. -/
def text (r : Report) : ReportFormat → String
  | .table => r.toGrid.text .rounded
  | .json => r.toJson.prettyText

end Report

end PagedTables
