/-
# Stores in a file

A store whose entries are kept in memory and committed to a file as snapshots. A commit

1. takes pages for the new snapshot from the free list, or adds new ones, and fills them;
2. gives the pages of the old snapshot to the free list;
3. writes every changed page but the meta page;
4. writes the meta page, which makes the new snapshot current;
5. raises the watermark of the free list.

The pages given away in step 2 are not handed out before step 5, so up to step 4 the old
snapshot stays readable.

* `DurableStore.open` : the store in a file, created if need be;
* `DurableStore.commit` : publishes the entries, or undoes everything but the entries;
* `DurableStore.update`, `DurableStore.delete` : changes that undo themselves if they cannot be
  committed.
-/
import PagedTables.Page.File
import PagedTables.Page.FreeList
import PagedTables.Page.Meta
import PagedTables.Store.Memory

namespace PagedTables

/-- A store in a file. -/
structure DurableStore where
  /-- The options; their page size is that of the file. -/
  options : StoreOptions
  /-- The pages of the file. -/
  pages : PageFile
  /-- The entries. -/
  index : MemoryStore
  /-- The free pages. -/
  free : FreeList
  /-- The pages of the current snapshot. -/
  snapshot : List PageId
  /-- The number of pages at the last commit. -/
  committedPages : Nat
  /-- Whether entries have changed since the last commit. -/
  dirty : Bool

namespace DurableStore

/-! ## Parts -/

/-- Runs an action of the page file. -/
def onPages {α : Type} (act : Action StoreError PageFile α) : Action StoreError DurableStore α :=
  Action.within DurableStore.pages (fun s pages => { s with pages := pages }) id act

/-- Runs an action of the free list and its pages. -/
def onPool {α : Type} (act : Action StoreError (PagePool PageFile) α) :
    Action StoreError DurableStore α :=
  Action.within (fun s => ⟨s.free, s.pages⟩)
    (fun s pool => { s with free := pool.free, pages := pool.pages }) id act

/-! ## Committing -/

/-- The meta page that describes a state with a given first snapshot page. -/
def metaPage (s : DurableStore) (head : PageId) : MetaPage where
  pageSize := UInt32.ofNat s.pages.pageSize
  pageCount := UInt64.ofNat s.pages.pageCount
  dataHead := UInt64.ofNat head
  entryCount := UInt64.ofNat s.index.size
  headPage := UInt64.ofNat s.free.headPage
  headSeq := UInt64.ofNat s.free.headSeq
  tailPage := UInt64.ofNat s.free.tailPage
  tailSeq := UInt64.ofNat s.free.tailSeq

/-- Makes written pages durable, if the options ask for it. -/
def syncIfAsked : Action StoreError DurableStore Unit := do
  if (← get).options.syncOnCommit then
    onPages PageFile.sync

/-- Writes the changed pages, then the meta page; after that every free page may be used. -/
def publish (head : PageId) : Action StoreError DurableStore Unit := do
  let description := (← get).metaPage head
  let _ ← onPages PageFile.flushPages
  syncIfAsked
  onPages (PageFile.change PageId.metaPage description.encode)
  onPages PageFile.flushMeta
  syncIfAsked
  modify fun s => { s with
    committedPages := description.pageCount.toNat
    free := s.free.raiseWatermark
    pages := s.pages.evictClean }

/-- The entries cut into page payloads. -/
def payloads (s : DurableStore) : List Bytes :=
  Bytes.chunks (Snapshot.payloadCapacity s.pages.pageSize)
    (Snapshot.encodeEntries s.index.entries.toList)

/-- Fills pages with the entries, and answers their numbers. -/
def stage : Action StoreError DurableStore (List PageId) := do
  let s ← get
  let ids ← onPool (PagePool.allocateMany s.payloads.length)
  onPages (Snapshot.writeChain ids s.payloads)
  onPool (PagePool.pushAll s.snapshot)
  return ids

/-- Writes the entries as a new snapshot and makes it current. -/
def writeSnapshot : Action StoreError DurableStore Unit := do
  let ids ← stage
  publish (ids.headD PageId.null)
  modify fun s => { s with snapshot := ids }

/-- Commits the entries. If that fails, pages and free list are those of the last commit
again, and the entries stay as they are. -/
def commit : Action StoreError DurableStore Unit := do
  let before := (← get).free
  match ← Action.attempt writeSnapshot with
  | .ok () => modify fun s => { s with dirty := false }
  | .error e =>
    modify fun s => { s with
      free := before
      pages := s.pages.discardUncommitted s.committedPages }
    throw e

/-! ## Opening and closing -/

/-- A new file with the meta page and page 1, an empty node of the free list. -/
def create (path : String) (disk : Disk) (options : StoreOptions) :
    Except StoreError DurableStore :=
  let size := options.pageSize
  let start : DurableStore :=
    { options
      pages := PageFile.create path size disk
      index := MemoryStore.ofOptions options
      free := FreeList.new 1 size
      snapshot := []
      committedPages := 0
      dirty := false }
  let fill : Action StoreError DurableStore Unit := do
    let _ ← onPages (PageFile.append (Bytes.zeros size))
    let _ ← onPages (PageFile.append (Bytes.zeros size))
    publish PageId.null
  match fill start with
  | .ok _ s => .ok s
  | .error e _ => .error e

/-- The pages of a file, its meta page, and the stream and the pages of its snapshot. -/
def readSnapshot (size : Nat) : Action StoreError PageFile (MetaPage × Bytes × List PageId) := do
  if (← get).pageCount = 0 then
    throw (.damaged .metaTruncated)
  let page ← PageFile.read PageId.metaPage
  let description ← Action.ofExcept (MetaPage.decode page)
  if description.pageSize.toNat ≠ size then
    throw (.damaged .pageSizeChanged)
  let present := (← get).pageCount
  if present < description.pageCount.toNat then
    throw (.damaged (.missingPages description.pageCount.toNat present))
  modify fun f => f.truncate description.pageCount.toNat
  let (stream, ids) ← Snapshot.readChain description.dataHead.toNat
  return (description, stream, ids)

/-- The store in a file that is not empty; the page size of the file replaces that of the
options. -/
def load (path : String) (disk : Disk) (options : StoreOptions) :
    Except StoreError DurableStore := do
  let size ← recordedPageSize disk.bytes
  match readSnapshot size (PageFile.ofDisk path size disk) with
  | .error e _ => throw e
  | .ok (description, stream, ids) pages =>
    let entries ← Snapshot.decodeEntries stream description.entryCount.toNat
    let options := { options with pageSize := size }
    return {
      options
      pages := pages.evictClean
      index := entries.foldl (fun m e => m.load e.1 e.2) (MemoryStore.ofOptions options)
      free := FreeList.restore
        ⟨description.headPage.toNat, description.headSeq.toNat,
          description.tailPage.toNat, description.tailSeq.toNat⟩ size
      snapshot := ids
      committedPages := description.pageCount.toNat
      dirty := false }

/-- The store under a path, given what is found there. A file without bytes is treated as one
that does not exist. -/
def «open» (path : String) (status : FileStatus) (options : StoreOptions) :
    Except StoreError DurableStore := do
  match options.check with
  | .error fault => throw (.invalidOptions fault)
  | .ok () =>
    if status = .unreadable then throw (.io .cannotOpen)
    else if !status.bytes.isEmpty then load path { bytes := status.bytes } options
    else if !options.createIfMissing then throw (.fileNotFound path)
    else if status = .uncreatable then throw (.io .cannotOpen)
    else create path { bytes := [] } options

/-! ## Changes -/

/-- Notes a change of one key, and commits it if the options ask for that. A change that cannot
be committed is undone. -/
def afterChange (key : Bytes) (previous : Option Bytes) :
    Action StoreError DurableStore Unit := do
  modify fun s => { s with dirty := true }
  if (← get).options.autoCommit then
    match ← Action.attempt commit with
    | .ok () => return ()
    | .error e =>
      modify fun s => { s with index := s.index.restore key previous, dirty := false }
      throw e

/-- Writes an entry if the mode allows it. -/
def update (key value : Bytes) (mode : WriteMode) :
    Action StoreError DurableStore WriteOutcome := do
  let s ← get
  let (outcome, index) ← Action.ofExcept (s.index.put key value mode)
  if outcome.updated then
    set { s with index := index }
    afterChange key (s.index.get? key)
  return outcome

/-- Removes a key, and answers whether it was there. -/
def delete (key : Bytes) : Action StoreError DurableStore Bool := do
  let s ← get
  match s.index.get? key with
  | some previous =>
    set { s with index := s.index.erase key }
    afterChange key (some previous)
    return true
  | none => return false

/-- Commits pending changes, if there are any. -/
def flush : Action StoreError DurableStore Unit := do
  if (← get).dirty then
    commit

instance : Store DurableStore where
  contents := DurableStore.index
  update := update
  delete := delete
  flush := flush

/-! ## Description -/

/-- Numbers about a store and its file. -/
structure Stats where
  /-- The name of the file. -/
  path : String
  /-- Bytes per page. -/
  pageSize : Nat
  /-- The number of pages, the meta page included. -/
  pageCount : Nat
  /-- The number of pages of the current snapshot. -/
  snapshotPages : Nat
  /-- The number of entries. -/
  entries : Nat
  /-- The number of free pages. -/
  freePages : Nat
  /-- The number of free pages that the next commit may use. -/
  reusablePages : Nat
  /-- The head node of the free list. -/
  freeListHead : PageId
  /-- The tail node of the free list. -/
  freeListTail : PageId
  deriving DecidableEq, Repr

/-- Numbers about a store and its file. -/
def stats (s : DurableStore) : Stats where
  path := s.pages.path
  pageSize := s.pages.pageSize
  pageCount := s.pages.pageCount
  snapshotPages := s.snapshot.length
  entries := s.index.size
  freePages := s.free.length
  reusablePages := s.free.reusable
  freeListHead := s.free.headPage
  freeListTail := s.free.tailPage

end DurableStore

end PagedTables
