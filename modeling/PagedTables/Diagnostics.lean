/-
# Diagnostics

One line about an open file, store, database or scan, for logs.

* `diagnostic` : a name and named fields in braces.
-/
import PagedTables.Store.Durable
import PagedTables.Table.Database
import PagedTables.Text.Quoted

namespace PagedTables

/-- A name and named fields in braces. -/
def diagnostic (name : String) (fields : List (String × String)) : String :=
  let body := ", ".intercalate (fields.map fun (field, value) => field ++ ": " ++ value)
  name ++ " \x7b " ++ body ++ " \x7d"

/-- A truth value as a word. -/
def flagText (b : Bool) : String :=
  if b then "true" else "false"

/-- A text that may be missing. -/
def optionalText : Option String → String
  | none => "None"
  | some s => "Some(" ++ quoted s ++ ")"

/-- A page file in one line. -/
def PageFile.diagnostic (f : PageFile) : String :=
  PagedTables.diagnostic "PageFile" [
    ("path", quoted f.path),
    ("page_size", toString f.pageSize),
    ("page_count", toString f.pageCount),
    ("cached", toString f.cache.size),
    ("dirty", toString f.dirtyCount)]

/-- A store in one line. -/
def DurableStore.diagnostic (s : DurableStore) : String :=
  PagedTables.diagnostic "PagedKv" [
    ("path", quoted s.pages.path),
    ("entries", toString s.index.size),
    ("snapshot_pages", toString s.snapshot.length),
    ("dirty", flagText s.dirty)]

/-- A database in one line. -/
def Database.diagnostic {κ : Type} [Store κ] (db : Database κ) : String :=
  PagedTables.diagnostic "Db" [
    ("entries", toString db.entries.size),
    ("cached_tables", toString db.cache.size),
    ("poisoned", optionalText db.poison)]

/-- A scan in one line. -/
def Scan.diagnostic (s : Scan) : String :=
  PagedTables.diagnostic "Scanner" [
    ("table", quoted s.schema.name),
    ("forward", flagText s.forward),
    ("cmp2", s.stopBound.name)]

end PagedTables
