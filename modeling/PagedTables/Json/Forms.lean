/-
# JSON forms

The options and schemas of the library as JSON. A stored schema is the compact form of an object
whose fields are `name`, `cols`, `types`, `pkeys`, `prefix` and `indexes`, types being given by
their tags; `prefix` and `indexes` may be missing. Every option may be missing too.

* `Schema.toJson`, `Schema.ofJson?` : schemas;
* `StoreOptions.toJson`, `StoreOptions.ofJson?` : options of a store;
* `DatabaseOptions.ofJson?` : options of a database.
-/
import PagedTables.Json.Parser
import PagedTables.Json.Printer
import PagedTables.Options
import PagedTables.Table.Schema

namespace PagedTables

/-- The greatest 32-bit word. -/
def maxWord32 : Nat := UInt32.size - 1

/-- The greatest 64-bit word. -/
def maxWord64 : Nat := UInt64.size - 1

/-! ## Column types -/

/-- A type as its tag. -/
def ColumnType.toJson (t : ColumnType) : Json :=
  Json.nat t.tag

/-- The type of a tag. -/
def ColumnType.ofJson? (j : Json) : Option ColumnType :=
  (j.nat? maxWord32).bind ofTag?

/-! ## Schemas -/

/-- An index as an object. -/
def IndexDef.toJson (i : IndexDef) : Json :=
  Json.record [("name", .text i.name), ("columns", .array (i.columns.map .text))]

/-- The index that an object describes. -/
def IndexDef.ofJson? (j : Json) : Option IndexDef := do
  match ← j.fields? ["name", "columns"] with
  | [some name, some columns] => return ⟨← name.text?, ← columns.list? Json.text?⟩
  | _ => none

namespace Schema

/-- A schema as an object. -/
def toJson (s : Schema) : Json :=
  Json.record [
    ("name", .text s.name),
    ("cols", .array (s.columns.map .text)),
    ("types", .array (s.types.map ColumnType.toJson)),
    ("pkeys", .nat s.keyCount),
    ("prefix", .nat s.keyPrefix.toNat),
    ("indexes", .array (s.indexes.map IndexDef.toJson))]

/-- The schema that an object describes. -/
def ofJson? (j : Json) : Option Schema := do
  match ← j.fields? ["name", "cols", "types", "pkeys", "prefix", "indexes"] with
  | [some name, some cols, some types, some pkeys, keyPrefix, indexes] =>
    return {
      name := ← name.text?
      columns := ← cols.list? Json.text?
      types := ← types.list? ColumnType.ofJson?
      keyCount := ← pkeys.nat? maxWord64
      keyPrefix := UInt32.ofNat (← Json.optional (Json.nat? maxWord32) 0 keyPrefix)
      indexes := ← Json.optional (Json.list? IndexDef.ofJson?) [] indexes }
  | _ => none

end Schema

/-! ## Options -/

namespace StoreOptions

/-- Options as an object. -/
def toJson (o : StoreOptions) : Json :=
  Json.record [
    ("page_size", .nat o.pageSize),
    ("max_key_size", .nat o.maxKeySize),
    ("max_value_size", .nat o.maxValueSize),
    ("sync_on_commit", .bool o.syncOnCommit),
    ("auto_commit", .bool o.autoCommit),
    ("create_if_missing", .bool o.createIfMissing)]

/-- The options that an object describes, the usual ones where it is silent. -/
def ofJson? (j : Json) : Option StoreOptions := do
  let usual : StoreOptions := {}
  let size := Json.optional (Json.nat? maxWord64)
  let flag := Json.optional Json.bool?
  match ← j.fields? ["page_size", "max_key_size", "max_value_size", "sync_on_commit",
      "auto_commit", "create_if_missing"] with
  | [pageSize, maxKeySize, maxValueSize, syncOnCommit, autoCommit, createIfMissing] =>
    return {
      pageSize := ← size usual.pageSize pageSize
      maxKeySize := ← size usual.maxKeySize maxKeySize
      maxValueSize := ← size usual.maxValueSize maxValueSize
      syncOnCommit := ← flag usual.syncOnCommit syncOnCommit
      autoCommit := ← flag usual.autoCommit autoCommit
      createIfMissing := ← flag usual.createIfMissing createIfMissing }
  | _ => none

end StoreOptions

/-- The options that an object describes; the path must be given. -/
def DatabaseOptions.ofJson? (j : Json) : Option DatabaseOptions := do
  match ← j.fields? ["path", "storage"] with
  | [some path, store] =>
    return ⟨← path.text?, ← Json.optional StoreOptions.ofJson? {} store⟩
  | _ => none

end PagedTables
