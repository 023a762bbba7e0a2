/-
# Database errors

What a call of a database can report: its cause, its wording, its class, and whether the
database can be used afterwards.

* `DatabaseError.category` : the class of an error;
* `DatabaseError.isFatal` : after such an error a database refuses all further work.
-/
import PagedTables.Comparison
import PagedTables.Key.Tuple
import PagedTables.StoreError
import PagedTables.Table.Schema

namespace PagedTables

/-- What is wrong with the rows that describe a database. -/
inductive CatalogDamage where
  /-- A schema row has no name. -/
  | namelessRow
  /-- The stored counter of prefixes is no number. -/
  | malformedCounter
  /-- The stored counter of prefixes is one of a built-in table. -/
  | counterTooSmall (counter : UInt32)
  /-- A schema row has no definition. -/
  | noDefinition (table : String)
  /-- A stored definition cannot be read. -/
  | unreadable (table reason : String)
  /-- A stored definition belongs to another table, or has a prefix of a built-in table. -/
  | inconsistent (table : String)
  /-- A stored definition breaks a rule. -/
  | rejected (table : String) (fault : Schema.Fault)
  deriving DecidableEq, Repr

/-- The wording for a schema that breaks a rule. -/
def badSchemaMessage (table : String) (fault : Schema.Fault) : String :=
  "bad table schema: " ++ table ++ ": " ++ fault.message

/-- The wording of a damage. -/
def CatalogDamage.message : CatalogDamage → String
  | namelessRow => "schema row without a name"
  | malformedCounter => "malformed next_prefix counter"
  | counterTooSmall counter =>
    "next_prefix counter " ++ toString counter.toNat ++ " is below " ++
      toString Schema.firstPrefix.toNat
  | noDefinition table => "schema of " ++ table ++ " has no definition"
  | unreadable table reason => "schema of " ++ table ++ ": " ++ reason
  | inconsistent table => "schema of " ++ table ++ " is inconsistent"
  | rejected table fault => "stored schema rejected: " ++ badSchemaMessage table fault

/-- The class of an error, by what a caller is expected to do. -/
inductive ErrorCategory where
  /-- There is no such table, or its schema is refused. -/
  | schema
  /-- A record does not fit the columns. -/
  | record
  /-- A range or the use of a scan is wrong. -/
  | range
  /-- Stored bytes are damaged. -/
  | corruption
  /-- The store refuses an operation. -/
  | storage
  /-- An earlier error has ended the use of the database. -/
  | poisoned
  deriving DecidableEq, Repr

/-- The name of a class. -/
def ErrorCategory.name : ErrorCategory → String
  | schema => "schema"
  | record => "record"
  | range => "range"
  | corruption => "corruption"
  | storage => "storage"
  | poisoned => "poisoned"

/-- An error of a database. -/
inductive DatabaseError where
  /-- There is no table of this name. -/
  | tableNotFound (table : String)
  /-- The name is taken or reserved. -/
  | tableExists (table : String)
  /-- A schema breaks a rule. -/
  | badSchema (table : String) (fault : Schema.Fault)
  /-- A column is not set that must be. -/
  | missingColumn (column : String)
  /-- A column is set that must not be. -/
  | extraColumn (column : String)
  /-- The table does not have this column. -/
  | unknownColumn (column : String)
  /-- A value is of another type than its column. -/
  | badColumnType (column : String) (expected actual : ColumnType)
  /-- The two comparisons of a range do not face each other. -/
  | badRange (start stop : Comparison)
  /-- The scan stands on no row. -/
  | invalidCursor
  /-- A row cannot be decoded. -/
  | undecodable (error : CodecError)
  /-- The rows that describe the database are damaged. -/
  | catalog (damage : CatalogDamage)
  /-- The store reports an error. -/
  | store (error : StoreError)
  /-- An earlier error, of which this is the text, has ended the use of the database. -/
  | poisoned (reason : String)
  deriving DecidableEq, Repr

namespace DatabaseError

/-- The text of an error. -/
def message : DatabaseError → String
  | tableNotFound table => "table not found: " ++ table
  | tableExists table => "table exists: " ++ table
  | badSchema table fault => badSchemaMessage table fault
  | missingColumn column => "missing column: " ++ column
  | extraColumn column => "extra column: " ++ column
  | unknownColumn column => "unknown column: " ++ column
  | badColumnType column expected actual =>
    "bad column type: " ++ column ++ " (expected " ++ expected.name ++ ", got " ++
      actual.name ++ ")"
  | badRange start stop =>
    "bad range: " ++ start.name ++ " cannot be paired with " ++ stop.name
  | invalidCursor => "scanner is not positioned on a row"
  | undecodable error => "corrupted data: " ++ error.message
  | catalog damage => "corrupted data: " ++ damage.message
  | store error => "storage error: " ++ error.message
  | poisoned reason => "database handle is poisoned: " ++ reason

/-- The text of the error followed by those of its causes. -/
def chain : DatabaseError → List String
  | undecodable error => [message (undecodable error), error.message]
  | store error => message (store error) :: error.chain
  | e => [message e]

/-- The class of an error. -/
def category : DatabaseError → ErrorCategory
  | tableNotFound _ | tableExists _ | badSchema .. => .schema
  | missingColumn _ | extraColumn _ | unknownColumn _ | badColumnType .. => .record
  | badRange .. | invalidCursor => .range
  | undecodable _ | catalog _ => .corruption
  | store error => if error.isDamage then .corruption else .storage
  | poisoned _ => .poisoned

/-- Tells whether the database must not be used after the error. -/
def isFatal (e : DatabaseError) : Bool :=
  e.category = .corruption ∨ e.category = .poisoned

end DatabaseError

end PagedTables
