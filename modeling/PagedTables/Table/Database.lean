/-
# Databases

Tables of typed rows in an ordered store. Two tables are built in: one maps the names of all
other tables to their schemas, one holds the counter of key prefixes. An error that shows damage
ends the use of a database: every later call reports it again.

* `Database.createTable`, `Database.schemaOf`, `Database.tableNames` : schemas;
* `Database.get`, `Database.set`, `Database.delete` : rows;
* `Database.scan`, `Database.scanTable`, `Database.collect` : ranges of rows.
-/
import PagedTables.Json.Forms
import PagedTables.Table.Scan

namespace PagedTables

/-- Tables in a store. -/
structure Database (κ : Type) where
  /-- The store. -/
  store : κ
  /-- Schemas that were read or created before. -/
  cache : OrderedMap String Schema := ∅
  /-- The text of the error that has ended the use of the database. -/
  poison : Option String := none

namespace Database

variable {κ : Type} [Store κ] {α : Type}

/-- The entries of the store. -/
def entries (db : Database κ) : Entries :=
  (Store.contents db.store).entries

/-- Runs an action of the store. -/
def onStore (act : Action StoreError κ α) : Action DatabaseError (Database κ) α :=
  Action.within Database.store (fun db store => { db with store := store }) .store act

/-! ## Poison -/

/-- Ends the use of the database. The first reason stays, unless it is to be replaced. -/
def poisonWith (reason : String) (replace : Bool) : Action DatabaseError (Database κ) Unit :=
  modify fun db =>
    if db.poison.isSome && !replace then db else { db with poison := some reason }

/-- Runs an action of a database that is still in use; a fatal error ends the use. -/
def guarded (act : Action DatabaseError (Database κ) α) :
    Action DatabaseError (Database κ) α := do
  match (← get).poison with
  | some reason => throw (.poisoned reason)
  | none =>
    match ← Action.attempt act with
    | .ok a => return a
    | .error e =>
      if e.isFatal then
        poisonWith e.message false
      throw e

/-- The row that a scan stands on. A row that cannot be decoded ends the use of the database. -/
def fetch (s : Scan) : Action DatabaseError (Database κ) Record := do
  match s.row with
  | .ok record => return record
  | .error (.undecodable error) =>
    poisonWith error.message true
    throw (.undecodable error)
  | .error e => throw e

/-! ## Rows of a known table -/

/-- The row whose key is set in a record. -/
def getRow (s : Schema) (r : Record) : Action DatabaseError (Database κ) (Option Record) := do
  let values ← Action.ofExcept (r.select s s.keyColumns)
  let key := encodeKey s.keyPrefix values
  let scan := Scan.start (← get).entries s .atLeast key .atMost key
  if scan.isValid then
    return some (← fetch scan)
  else
    return none

/-- Writes a full row. -/
def setRow (s : Schema) (r : Record) (mode : WriteMode) :
    Action DatabaseError (Database κ) WriteOutcome := do
  let values ← Action.ofExcept (r.exactly s s.columns.length)
  let key := encodeKey s.keyPrefix (values.take s.keyCount)
  onStore (Store.update key (encodeTuple (values.drop s.keyCount)) mode)

/-- The stored key of the row whose key columns, and no others, are set in a record. -/
def rowKey (s : Schema) (r : Record) : Except DatabaseError Bytes :=
  (r.exactly s s.keyCount).map (encodeKey s.keyPrefix)

/-- Removes the row whose key is set in a record. -/
def deleteRow (s : Schema) (r : Record) : Action DatabaseError (Database κ) Bool := do
  let key ← Action.ofExcept (rowKey s r)
  onStore (Store.delete key)

/-! ## Schemas -/

/-- A record of byte strings. -/
def textRecord (fields : List (String × Bytes)) : Record :=
  ⟨fields.map fun (column, b) => (column, Value.bytes b)⟩

/-- The byte string in a column. -/
def bytesIn (r : Record) (column : String) : Option Bytes :=
  (r.get? column).bind Value.bytes?

/-- The key of the counter of prefixes in the table of settings. -/
def counterKey : Bytes :=
  Bytes.ofText "next_prefix"

/-- The setting that holds a counter of prefixes. -/
def counterRecord (counter : UInt32) : Record :=
  textRecord [("key", counterKey), ("val", Bytes.ofNatLE 4 counter.toNat)]

/-- The number in a stored counter of prefixes. -/
def counterOf (r : Record) : Except DatabaseError UInt32 :=
  match bytesIn r "val" with
  | some b =>
    let counter := UInt32.ofNat (Bytes.toNatLE b)
    if b.length ≠ 4 then .error (.catalog .malformedCounter)
    else if counter < Schema.firstPrefix then .error (.catalog (.counterTooSmall counter))
    else .ok counter
  | none => .error (.catalog .malformedCounter)

/-- The stored counter of prefixes, if there is one. -/
def readCounter : Action DatabaseError (Database κ) (Option UInt32) := do
  match ← getRow Schema.settings (textRecord [("key", counterKey)]) with
  | some r => some <$> Action.ofExcept (counterOf r)
  | none => return none

/-- Puts the counter of prefixes back to what it was, as far as the store lets it. -/
def restoreCounter (previous : Option UInt32) : Action DatabaseError (Database κ) Unit := do
  let restore : Action DatabaseError (Database κ) Unit :=
    match previous with
    | some counter => do
      let _ ← setRow Schema.settings (counterRecord counter) .upsert
    | none => do
      let _ ← deleteRow Schema.settings (textRecord [("key", counterKey)])
  let _ ← Action.attempt restore
  return ()

/-- Keeps a schema at hand. -/
def remember (s : Schema) : Action DatabaseError (Database κ) Unit :=
  modify fun db => { db with cache := db.cache.insert s.name s }

/-- The check of a schema as an action. -/
def checkSchema (s : Schema) : Action DatabaseError (Database κ) Unit :=
  match s.check with
  | .ok () => return ()
  | .error fault => throw (.badSchema s.name fault)

/-- Stores the schema of a new table. If that fails, the counter of prefixes is put back to what it
was before. -/
def enter (previous : Option UInt32) (s : Schema) : Action DatabaseError (Database κ) Unit := do
  let row := textRecord [("name", Bytes.ofText s.name), ("def", s.toJson.compact)]
  match ← Action.attempt (setRow Schema.catalog row .insert) with
  | .ok _ => remember s
  | .error e =>
    restoreCounter previous
    throw e

/-- Creates a table: takes the next prefix, moves the counter on, and stores the schema. -/
def addTable (s : Schema) : Action DatabaseError (Database κ) Unit := do
  checkSchema s
  if s.name.startsWith "@" then
    throw (.tableExists s.name)
  if s.keyPrefix ≠ 0 then
    throw (.badSchema s.name .presetPrefix)
  let s := s.fillPrimary
  checkSchema s
  if (← getRow Schema.catalog (textRecord [("name", Bytes.ofText s.name)])).isSome then
    throw (.tableExists s.name)
  let previous ← readCounter
  let assigned := previous.getD Schema.firstPrefix
  if assigned.toNat = maxWord32 then
    throw (.badSchema s.name .prefixesExhausted)
  let _ ← setRow Schema.settings (counterRecord (assigned + 1)) .upsert
  enter previous { s with keyPrefix := assigned }

/-- The schema that a row of the catalog defines for a table of a name. -/
def schemaFromRow (name : String) (row : Record) : Except CatalogDamage Schema :=
  match bytesIn row "def" with
  | none => .error (.noDefinition name)
  | some source =>
    match Json.parseAs Schema.ofJson? source with
    | .error fault => .error (.unreadable name (fault.message source))
    | .ok s =>
      if s.name ≠ name ∨ s.keyPrefix < Schema.firstPrefix then .error (.inconsistent name)
      else
        match s.check with
        | .ok () => .ok s
        | .error fault => .error (.rejected s.name fault)

/-- The schema of a table: built in, at hand, or read from the catalog. -/
def resolve (name : String) : Action DatabaseError (Database κ) Schema := do
  match (Schema.builtIn? name).or ((← get).cache.lookup name) with
  | some s => return s
  | none =>
    match ← getRow Schema.catalog (textRecord [("name", Bytes.ofText name)]) with
    | none => throw (.tableNotFound name)
    | some row =>
      match schemaFromRow name row with
      | .error damage => throw (.catalog damage)
      | .ok s =>
        remember s
        return s

/-- Creates a table. Its prefix must be zero, and is assigned here; the primary index is added
if no index is declared. -/
def createTable (s : Schema) : Action DatabaseError (Database κ) Unit :=
  guarded (addTable s)

/-- The schema of a table. -/
def schemaOf (name : String) : Action DatabaseError (Database κ) Schema :=
  guarded (resolve name)

/-! ## Rows -/

/-- The row whose key is set in a record, if there is one. -/
def get (table : String) (r : Record) : Action DatabaseError (Database κ) (Option Record) :=
  guarded do
    let s ← resolve table
    getRow s r

/-- Writes a full row if the mode allows it. -/
def set (table : String) (r : Record) (mode : WriteMode) :
    Action DatabaseError (Database κ) WriteOutcome :=
  guarded do
    let s ← resolve table
    setRow s r mode

/-- Writes a new row, and answers whether the key was free. -/
def insert (table : String) (r : Record) : Action DatabaseError (Database κ) Bool :=
  return (← set table r .insert).updated

/-- Replaces a row, and answers whether a row was there and has changed. -/
def update (table : String) (r : Record) : Action DatabaseError (Database κ) Bool :=
  return (← set table r .update).updated

/-- Writes a row, and answers whether that has changed anything. -/
def upsert (table : String) (r : Record) : Action DatabaseError (Database κ) Bool :=
  return (← set table r .upsert).updated

/-- Removes the row whose key is set in a record, and answers whether it was there. -/
def delete (table : String) (r : Record) : Action DatabaseError (Database κ) Bool :=
  guarded do
    let s ← resolve table
    deleteRow s r

/-! ## Scans -/

/-- A table's schema and the stored keys at the ends of a range. -/
def prepareScan (table : String) (range : KeyRange) :
    Action DatabaseError (Database κ) (Schema × Bytes × Bytes) := do
  if range.isValid then
    let s ← resolve table
    let start ← Action.ofExcept (rowKey s range.startKey)
    let stop ← Action.ofExcept (rowKey s range.stopKey)
    return (s, start, stop)
  else
    throw (.badRange range.startBound range.stopBound)

/-- A scan of the rows whose keys lie in a range. -/
def scan (table : String) (range : KeyRange) : Action DatabaseError (Database κ) Scan := do
  let (s, start, stop) ← guarded (prepareScan table range)
  return Scan.start (← MonadState.get).entries s range.startBound start range.stopBound stop

/-- The end of the keys of a table: the prefix after its own, or, if there is none, a string
above all keys. -/
def tableEnd (keyPrefix : UInt32) : Bytes :=
  if keyPrefix.toNat = maxWord32 then List.replicate (prefixSize + 1) 0xff
  else prefixKey (keyPrefix + 1)

/-- A scan of all rows of a table, upwards. -/
def scanTable (table : String) : Action DatabaseError (Database κ) Scan := do
  let s ← guarded (resolve table)
  return Scan.start (← MonadState.get).entries s .atLeast (prefixKey s.keyPrefix) .below
    (tableEnd s.keyPrefix)

/-- At most `n` rows from the position of a scan on. -/
def take : Nat → Scan → Action DatabaseError (Database κ) (List Record)
  | 0, _ => return []
  | n + 1, s => do
    if s.isValid then
      let row ← fetch s
      let s ← Action.ofExcept s.next
      return row :: (← take n s)
    else
      return []

/-- All rows from the position of a scan on; no scan passes more rows than there are entries. -/
def collect (s : Scan) : Action DatabaseError (Database κ) (List Record) :=
  take s.cursor.entries.size s

/-- The name in a row of the catalog. -/
def nameIn (row : Record) : Except DatabaseError String :=
  match bytesIn row "name" with
  | some b => .ok (Bytes.toTextLossy b)
  | none => .error (.catalog .namelessRow)

/-- The names of all tables that are not built in, in order. -/
def tableNames : Action DatabaseError (Database κ) (List String) := do
  let rows ← collect (← scanTable Schema.catalogName)
  Action.ofExcept (rows.mapM nameIn)

/-! ## The store -/

/-- Makes all changes durable. -/
def flush : Action DatabaseError (Database κ) Unit :=
  guarded (onStore Store.flush)

end Database

end PagedTables
