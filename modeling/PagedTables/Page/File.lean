/-
# Page files

A page store in a file. Pages are read on demand into a cache, changed there, and written back
by an explicit flush. The meta page is flushed apart from all others, so that a commit can
write every other page before the page that refers to them.

* `PageFile.flushPages`, `PageFile.flushMeta` : the two halves of writing back;
* `PageFile.discardUncommitted` : forgetting all changes that were not written back.
-/
import PagedTables.OrderedMap
import PagedTables.Page.Disk
import PagedTables.Page.Store

namespace PagedTables

/-- A page in the cache. -/
structure CachedPage where
  /-- The bytes of the page. -/
  bytes : Bytes
  /-- Whether the page was changed since it was read or written. -/
  dirty : Bool
  deriving DecidableEq, Repr

/-- A page store in a file. -/
structure PageFile where
  /-- The name of the file. -/
  path : String
  /-- Bytes per page. -/
  pageSize : Nat
  /-- The number of pages, those not yet written included. -/
  pageCount : Nat
  /-- The pages held in memory. -/
  cache : OrderedMap PageId CachedPage
  /-- The file itself. -/
  disk : Disk

namespace PageFile

/-! ## Opening -/

/-- A file without pages. -/
def create (path : String) (pageSize : Nat) (disk : Disk) : PageFile :=
  ⟨path, pageSize, 0, ∅, { disk with bytes := [] }⟩

/-- A file with the pages that it holds in full; a partial page at the end is not counted. -/
def ofDisk (path : String) (pageSize : Nat) (disk : Disk) : PageFile :=
  ⟨path, pageSize, disk.bytes.length / pageSize, ∅, disk⟩

/-- A new file under a path, in place of the one that is there. -/
def createAt (path : String) (status : FileStatus) (pageSize : Nat) :
    Except StoreError PageFile :=
  match status with
  | .present _ | .absent => .ok (create path pageSize { bytes := [] })
  | .uncreatable | .unreadable => .error (.io .cannotOpen)

/-- The file under a path. -/
def openAt (path : String) (status : FileStatus) (pageSize : Nat) : Except StoreError PageFile :=
  match status with
  | .present bytes => .ok (ofDisk path pageSize { bytes })
  | .absent | .uncreatable | .unreadable => .error (.io .cannotOpen)

/-- Runs an action of the disk. -/
def onDisk {α : Type} (act : Action StoreError Disk α) : Action StoreError PageFile α :=
  Action.within PageFile.disk (fun f d => { f with disk := d }) id act

/-! ## Pages -/

/-- The page from the cache, read from the file first if it is not there. -/
def load (id : PageId) : Action StoreError PageFile CachedPage := do
  let f ← get
  if id < f.pageCount then
    match f.cache.lookup id with
    | some page => return page
    | none =>
      let bytes ← onDisk (Disk.read (id * f.pageSize) f.pageSize)
      let page : CachedPage := ⟨bytes, false⟩
      modify fun f => { f with cache := f.cache.insert id page }
      return page
  else
    throw (.pageNotFound id)

/-- The bytes of a page. -/
def read (id : PageId) : Action StoreError PageFile Bytes :=
  return (← load id).bytes

/-- Changes a page in the cache. -/
def change (id : PageId) (f : Bytes → Bytes) : Action StoreError PageFile Unit := do
  let page ← load id
  modify fun file => { file with cache := file.cache.insert id ⟨f page.bytes, true⟩ }

/-- Adds a page behind the last one. -/
def append (page : Bytes) : Action StoreError PageFile PageId := do
  let f ← get
  if page.length = f.pageSize then
    set { f with
      pageCount := f.pageCount + 1
      cache := f.cache.insert f.pageCount ⟨page, true⟩ }
    return f.pageCount
  else
    throw (.wrongPageSize f.pageSize page.length)

instance : PageStore PageFile where
  pageSize := PageFile.pageSize
  pageCount := PageFile.pageCount
  read := read
  modify := change
  append := append

/-! ## Writing back -/

/-- The pages that were changed, in ascending order. -/
def dirtyPages (f : PageFile) : List (PageId × CachedPage) :=
  f.cache.toList.filter fun e => e.2.dirty

/-- The number of pages that were changed. -/
def dirtyCount (f : PageFile) : Nat :=
  f.dirtyPages.length

/-- Notes that a cached page agrees with the file. -/
def markClean (id : PageId) (bytes : Bytes) : Action StoreError PageFile Unit :=
  modify fun f => { f with cache := f.cache.insert id ⟨bytes, false⟩ }

/-- Writes the bytes of a page to its place in the file. -/
def writeAt (id : PageId) (bytes : Bytes) : Action StoreError PageFile Unit := do
  let f ← get
  onDisk (Disk.write (id * f.pageSize) bytes)

/-- Writes pages one by one; each one counts as unchanged once it is written. -/
def writeBack : List (PageId × CachedPage) → Action StoreError PageFile Unit
  | [] => return ()
  | (id, page) :: rest => do
    writeAt id page.bytes
    markClean id page.bytes
    writeBack rest

/-- Writes every changed page except the meta page, and answers how many there were. -/
def flushPages : Action StoreError PageFile Nat := do
  let pages := (← get).dirtyPages.filter fun e => e.1 != PageId.metaPage
  writeBack pages
  return pages.length

/-- Writes the meta page if it was changed. -/
def flushMeta : Action StoreError PageFile Unit := do
  match (← get).cache.lookup PageId.metaPage with
  | some ⟨bytes, true⟩ =>
    markClean PageId.metaPage bytes
    writeAt PageId.metaPage bytes
  | _ => return ()

/-- Makes all written pages durable. -/
def sync : Action StoreError PageFile Unit :=
  onDisk Disk.sync

/-! ## Forgetting -/

/-- Forgets the pages from number `count` on. -/
def truncate (f : PageFile) (count : Nat) : PageFile :=
  { f with
    pageCount := min f.pageCount count
    cache := f.cache.filter fun e => decide (e.1 < count) }

/-- Forgets every change that was not written, and the pages from number `committed` on. -/
def discardUncommitted (f : PageFile) (committed : Nat) : PageFile :=
  { f with cache := f.cache.filter fun e => !e.2.dirty }.truncate committed

/-- Drops the unchanged pages from the cache. -/
def evictClean (f : PageFile) : PageFile :=
  { f with cache := f.cache.filter fun e => e.2.dirty }

end PageFile

end PagedTables
