/-
# Opening databases

A database in a file, and one that lives only in memory.

* `Database.open` : the database that options describe;
* `Database.memory` : an empty database in memory.
-/
import PagedTables.Store.Durable
import PagedTables.Table.Database

namespace PagedTables.Database

/-- The database that options describe, given what is found under its path. -/
def «open» (options : DatabaseOptions) (status : FileStatus) :
    Except DatabaseError (Database DurableStore) :=
  match options.check with
  | .error fault => .error (.store (.invalidOptions fault))
  | .ok () =>
    match DurableStore.open options.path status options.store with
    | .ok store => .ok { store }
    | .error e => .error (.store e)

/-- An empty database in memory. -/
def memory : Database MemoryStore where
  store := MemoryStore.empty

end PagedTables.Database
