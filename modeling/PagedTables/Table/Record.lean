/-
# Records

A record is a list of columns with values, free of any schema. Of several columns with one name
the first one counts; columns that a schema does not have are ignored.

* `Record.arrange` : the values in the order of a schema;
* `Record.exactly` : the values of the first columns, when no later one is set;
* `Record.select` : the values of named columns.
-/
import PagedTables.Table.Error

namespace PagedTables

/-- Columns with values. -/
structure Record where
  /-- The columns in the order in which they were set. -/
  fields : List (String × Value) := []
  deriving DecidableEq, Repr, Inhabited

namespace Record

/-- The record without columns. -/
def empty : Record := {}

/-- Sets a column, behind those that are set already. -/
def push (r : Record) (column : String) (value : Value) : Record :=
  ⟨r.fields ++ [(column, value)]⟩

/-- The value of the first column of a name. -/
def get? (r : Record) (column : String) : Option Value :=
  (r.fields.find? fun f => f.1 == column).map (·.2)

/-- The number of columns. -/
def size (r : Record) : Nat :=
  r.fields.length

/-- The names of the columns. -/
def columns (r : Record) : List String :=
  r.fields.map (·.1)

/-- The values of the columns. -/
def values (r : Record) : List Value :=
  r.fields.map (·.2)

/-- The record of a full row. -/
def ofRow (s : Schema) (values : List Value) : Record :=
  ⟨s.columns.zip values⟩

/-! ## Records against schemas -/

/-- Checks that a value has the type of its column. -/
def checkType (column : String) (type : ColumnType) (value : Value) :
    Except DatabaseError Value :=
  if value.type = type then .ok value
  else .error (.badColumnType column type value.type)

/-- The values in the order of the schema, `none` where a column is not set. -/
def arrange (s : Schema) (r : Record) : Except DatabaseError (List (Option Value)) :=
  (s.columns.zip s.types).mapM fun (column, type) =>
    match r.get? column with
    | none => .ok none
    | some value => (checkType column type value).map some

/-- The values of `n` columns that must be set, when the columns after them must not be. -/
def requireFirst : Nat → List (String × Option Value) → Except DatabaseError (List Value)
  | _, [] => .ok []
  | 0, (_, none) :: rest => requireFirst 0 rest
  | 0, (column, some _) :: _ => .error (.extraColumn column)
  | _ + 1, (column, none) :: _ => .error (.missingColumn column)
  | n + 1, (_, some value) :: rest => (requireFirst n rest).map (value :: ·)

/-- The values of the first `n` columns of the schema; no other column of it may be set. -/
def exactly (s : Schema) (r : Record) (n : Nat) : Except DatabaseError (List Value) := do
  requireFirst n (s.columns.zip (← arrange s r))

/-- The values of named columns of the schema. -/
def select (s : Schema) (r : Record) (columns : List String) :
    Except DatabaseError (List Value) :=
  columns.mapM fun column =>
    match s.columnType? column with
    | none => .error (.unknownColumn column)
    | some type =>
      match r.get? column with
      | none => .error (.missingColumn column)
      | some value => checkType column type value

end Record

end PagedTables
