/-
# Clients

How a database is used over time: by a client, who may have one scan open. An open scan keeps the
database busy, so every call of the database ends it first.

* `DatabaseCall.run`, `ScanCall.run` : the calls of a database and those of a scan;
* `Client.call` : one call of a client;
* `Client.runAll` : a sequence of calls with their answers.
-/
import PagedTables.Proofs.Tables.Reference

namespace PagedTables

/-! ## Calls of a database -/

/-- Everything that can be asked of a database. -/
inductive DatabaseCall where
  /-- Creates a table, or works on one row. -/
  | table (call : TableCall)
  /-- The schema of a table. -/
  | schemaOf (name : String)
  /-- The names of all tables that are not built in. -/
  | tableNames
  /-- Opens a scan of a range of rows. -/
  | scan (name : String) (range : KeyRange)
  /-- Opens a scan of all rows. -/
  | scanTable (name : String)
  /-- Makes all changes durable. -/
  | flush
  /-- Makes all changes durable, for the last time. -/
  | close

/-- What a call of a database answers. -/
inductive DatabaseReply where
  /-- The answer to a call on a table. -/
  | table (reply : TableReply)
  /-- A schema. -/
  | schema (s : Schema)
  /-- Names of tables. -/
  | names (names : List String)
  /-- A scan, which is now open. -/
  | scanning (s : Scan)
  /-- The changes are durable. -/
  | flushed

variable {κ : Type} [Store κ]

/-- Runs a call of a database. -/
def DatabaseCall.run : DatabaseCall → Action DatabaseError (Database κ) DatabaseReply
  | table call => .table <$> call.run
  | schemaOf name => .schema <$> Database.schemaOf name
  | tableNames => .names <$> Database.tableNames
  | scan name range => .scanning <$> Database.scan name range
  | scanTable name => .scanning <$> Database.scanTable name
  | flush | close => (fun _ => .flushed) <$> Database.flush

/-- The scan that an answer opens. -/
def DatabaseReply.scan? : DatabaseReply → Option Scan
  | scanning s => some s
  | _ => none

/-! ## Calls of a scan -/

/-- Everything that can be asked of a scan. -/
inductive ScanCall where
  /-- Whether the scan stands on a row. -/
  | isValid
  /-- Moves to the next row. -/
  | next
  /-- The row that the scan stands on. -/
  | row
  /-- All rows that are left, which ends the scan. -/
  | collect

/-- What a call of a scan answers. -/
inductive ScanReply where
  /-- Yes or no. -/
  | told (answer : Bool)
  /-- The scan has moved. -/
  | moved
  /-- A row. -/
  | row (r : Record)
  /-- Several rows. -/
  | rows (rows : List Record)

/-- Runs a call of a scan. -/
def ScanCall.run (s : Scan) : ScanCall → Action DatabaseError (Database κ) ScanReply
  | isValid => return .told s.isValid
  | next => (fun _ => .moved) <$> Action.ofExcept s.next
  | row => .row <$> Database.fetch s
  | collect => .rows <$> Database.collect s

/-- The scan after a call. -/
def ScanCall.after (s : Scan) : ScanCall → Option Scan
  | isValid | row => some s
  | next => s.next.toOption.or (some s)
  | collect => none

/-! ## Clients -/

/-- A database in use, and the scan that is open on it, if there is one. -/
structure Client (κ : Type) where
  /-- The database. -/
  db : Database κ
  /-- The scan. -/
  scan : Option Scan := none

namespace Client

/-- A call of a client. -/
inductive Call where
  /-- A call of the database. -/
  | database (call : DatabaseCall)
  /-- A call of the scan that is open. -/
  | scan (call : ScanCall)

/-- What a client is answered. -/
inductive Reply where
  /-- The answer of the database. -/
  | database (reply : DatabaseReply)
  /-- The answer of the scan. -/
  | scan (reply : ScanReply)

/-- Runs a call: what it answers, and the client afterwards. Without a scan, the calls of one are
refused. -/
def call (u : Client κ) : Call → Except DatabaseError Reply × Client κ
  | .database call =>
    let (reply, db) := Action.outcome call.run u.db
    (reply.map .database, ⟨db, reply.toOption.bind DatabaseReply.scan?⟩)
  | .scan call =>
    match u.scan with
    | none => (.error .invalidCursor, u)
    | some s =>
      let (reply, db) := Action.outcome (call.run s) u.db
      (reply.map .scan, ⟨db, call.after s⟩)

/-- Runs calls one after the other: each call with what it answers, and the client afterwards. -/
def runAll (u : Client κ) : List Call → List (Call × Except DatabaseError Reply) × Client κ
  | [] => ([], u)
  | c :: calls =>
    let (reply, next) := u.call c
    let (replies, last) := runAll next calls
    ((c, reply) :: replies, last)

/-- Calls are made one after another. -/
theorem runAll_cons (u : Client κ) (c : Call) (calls : List Call) :
    u.runAll (c :: calls) = ((c, (u.call c).1) :: ((u.call c).2.runAll calls).1,
      ((u.call c).2.runAll calls).2) := rfl

end Client

end PagedTables
