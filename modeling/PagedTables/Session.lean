/-
# Sessions

At most one open store and one open database on a volume. Both may lie in one file, and files
may be changed behind their backs.

* `Session.openStore`, `Session.openDatabase` : opening, in place of what was open before;
* `Session.onStore`, `Session.onDatabase` : actions on what is open.
-/
import PagedTables.Inspection
import PagedTables.Volume

namespace PagedTables

/-- An open database, in memory or in a file. -/
inductive OpenDatabase where
  /-- A database in memory. -/
  | memory (db : Database MemoryStore)
  /-- A database in a file. -/
  | durable (handle : Handle (Database DurableStore))

/-- What is open on a volume. -/
structure Session where
  /-- The files. -/
  volume : Volume := {}
  /-- The open store. -/
  store : Option (Handle DurableStore) := none
  /-- The open database. -/
  database : Option OpenDatabase := none

namespace Session

variable {α : Type}

/-- Opens the store under a path. A failure leaves no store open. -/
def openStore (s : Session) (path : String) (options : StoreOptions) :
    Except StoreError Unit × Session :=
  let opened := DurableStore.open path (s.volume.status path) options
  match s.volume.attach path opened with
  | (.ok handle, volume) => (.ok (), { s with store := some handle, volume })
  | (.error e, volume) => (.error e, { s with store := none, volume })

/-- Opens the database that options describe. A failure leaves no database open. -/
def openDatabase (s : Session) (options : DatabaseOptions) :
    Except DatabaseError Unit × Session :=
  let opened := Database.open options (s.volume.status options.path)
  match s.volume.attach options.path opened with
  | (.ok handle, volume) => (.ok (), { s with database := some (.durable handle), volume })
  | (.error e, volume) => (.error e, { s with database := none, volume })

/-- Makes a database of the open store. -/
def adoptStore (s : Session) (handle : Handle DurableStore) : Session :=
  { s with
    store := none
    database := some (.durable ⟨handle.file, { store := handle.value }⟩) }

/-- Runs an action on the open store, if there is one. -/
def onStore (s : Session) (act : Action StoreError DurableStore α) :
    Option (Except StoreError α × Session) :=
  s.store.map fun handle =>
    let (outcome, handle, volume) := handle.run s.volume act
    (outcome, { s with store := some handle, volume })

/-- Runs an action on the open database, if there is one. -/
def onDatabase (s : Session)
    (act : {κ : Type} → [Measured κ] → Action DatabaseError (Database κ) α) :
    Option (Except DatabaseError α × Session) :=
  match s.database with
  | none => none
  | some (.memory db) =>
    let (outcome, db) := Action.outcome act db
    some (outcome, { s with database := some (.memory db) })
  | some (.durable handle) =>
    let (outcome, handle, volume) := handle.run s.volume act
    some (outcome, { s with database := some (.durable handle), volume })

end Session

end PagedTables
