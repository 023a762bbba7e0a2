/-
# The free list

A queue of page numbers that is stored in pages of the same file. Its nodes form a chain; each
holds a link to the next node and a fixed number of slots. Items enter at the tail and leave at
the head, and a node whose slots have all been read becomes an item itself.

Every item has a sequence number, and the remainder of that number is the item's slot. Items
leave only below a watermark, which is moved up after each commit: a page that was released by
the commit in progress is never handed out by that same commit.

    +--------+------+------+ ... +------+
    | link   | slot | slot |     | slot |
    +--------+------+------+ ... +------+

* `PagePool.popHead` : takes the oldest item below the watermark;
* `PagePool.pushTail` : adds an item, and a new node when the last one is full.
-/
import PagedTables.Page.Store

namespace PagedTables

/-! ## Nodes -/

namespace FreeNode

/-- The length of the link at the start of a node. -/
def headerSize : Nat := 8

/-- The length of a slot. -/
def slotSize : Nat := 8

/-- The number of slots in a node of a given page size. -/
def capacity (pageSize : Nat) : Nat :=
  (pageSize - headerSize) / slotSize

/-- The position of a slot. -/
def slotOffset (i : Nat) : Nat :=
  headerSize + slotSize * i

/-- The next node. -/
def link (node : Bytes) : PageId :=
  PageId.ofBytes (node.slice 0 headerSize)

/-- Sets the next node. -/
def setLink (next : PageId) (node : Bytes) : Bytes :=
  node.overwrite 0 next.toBytes

/-- The item in a slot. -/
def slot (node : Bytes) (i : Nat) : PageId :=
  PageId.ofBytes (node.slice (slotOffset i) slotSize)

/-- Puts an item into a slot. -/
def setSlot (i : Nat) (item : PageId) (node : Bytes) : Bytes :=
  node.overwrite (slotOffset i) item.toBytes

end FreeNode

/-! ## The controller -/

/-- The sequence number after `s`, as a 64-bit word. -/
def nextSeq (s : Nat) : Nat :=
  (s + 1) % UInt64.size

/-- Where a free list starts and ends. -/
structure FreeSpan where
  /-- The node with the oldest item. -/
  headPage : PageId
  /-- The sequence number of the oldest item. -/
  headSeq : Nat
  /-- The node that takes new items. -/
  tailPage : PageId
  /-- The sequence number of the next new item. -/
  tailSeq : Nat
  deriving DecidableEq, Repr, Inhabited

/-- A free list, apart from the pages that hold its items. -/
structure FreeList extends FreeSpan where
  /-- The sequence number from which on items may not leave yet. -/
  watermark : Nat
  /-- The number of slots in a node. -/
  capacity : Nat
  deriving DecidableEq, Repr, Inhabited

namespace FreeList

/-- A stored free list; all of its items may leave. -/
def restore (span : FreeSpan) (pageSize : Nat) : FreeList :=
  ⟨span, span.tailSeq, FreeNode.capacity pageSize⟩

/-- An empty free list with one node. -/
def new (node : PageId) (pageSize : Nat) : FreeList :=
  restore ⟨node, 0, node, 0⟩ pageSize

/-- The number of items. -/
def length (l : FreeList) : Nat :=
  (l.tailSeq + UInt64.size - l.headSeq) % UInt64.size

/-- The number of items that may leave. -/
def reusable (l : FreeList) : Nat :=
  l.watermark - l.headSeq

/-- Lets every item leave that has entered so far. -/
def raiseWatermark (l : FreeList) : FreeList :=
  { l with watermark := l.tailSeq }

/-- The slot of an item. -/
def index (l : FreeList) (s : Nat) : Nat :=
  s % l.capacity

end FreeList

/-! ## The list with its pages -/

/-- A free list together with the pages it lives in. -/
structure PagePool (σ : Type) where
  /-- The free list. -/
  free : FreeList
  /-- The pages. -/
  pages : σ

namespace PagePool

variable {σ : Type} [PageStore σ]

/-- Runs an action of the page store. -/
def onPages {α : Type} (act : Action StoreError σ α) : Action StoreError (PagePool σ) α :=
  Action.within PagePool.pages (fun p pages => { p with pages := pages }) id act

/-- Changes the free list, not its pages. -/
def updateFree (f : FreeList → FreeList) : Action StoreError (PagePool σ) Unit :=
  modify fun p => { p with free := f p.free }

/-- Takes the oldest item below the watermark. Also answers the head node if this was its last
item; the caller makes an item of it. -/
def pop : Action StoreError (PagePool σ) (Option PageId × Option PageId) := do
  let l := (← get).free
  if l.headSeq = l.watermark then
    return (none, none)
  else
    let node ← onPages (PageStore.read l.headPage)
    let item := FreeNode.slot node (l.index l.headSeq)
    let next := FreeNode.link node
    if item = PageId.null then
      throw (.damaged (.emptySlot l.headPage l.headSeq))
    else if l.index (nextSeq l.headSeq) ≠ 0 then
      updateFree fun l => { l with headSeq := nextSeq l.headSeq }
      return (some item, none)
    else if next = PageId.null then
      throw (.damaged (.noSuccessor l.headPage))
    else
      updateFree fun l => { l with headSeq := nextSeq l.headSeq, headPage := next }
      return (some item, some l.headPage)

/-- A page of zeros behind the last page. -/
def appendZeros : Action StoreError (PagePool σ) PageId := do
  let size := PageStore.pageSize (← get).pages
  onPages (PageStore.append (Bytes.zeros size))

/-- Adds a node after the last one: the oldest item if one may leave, else a new page. A head
node that is used up by this becomes the first item of the new node. -/
def addNode : Action StoreError (PagePool σ) Unit := do
  let (item, reclaimed) ← pop
  let next ← match item with
    | some id => pure id
    | none => appendZeros
  let l := (← get).free
  onPages (PageStore.modify l.tailPage (FreeNode.setLink next))
  onPages (PageStore.modify next (FreeNode.setLink PageId.null))
  updateFree fun l => { l with tailPage := next }
  match reclaimed with
  | none => return ()
  | some node =>
    onPages (PageStore.modify next (FreeNode.setSlot 0 node))
    updateFree fun l => { l with tailSeq := nextSeq l.tailSeq }

/-- Adds an item at the tail, and a node behind the last one when that one is full. -/
def pushTail (item : PageId) : Action StoreError (PagePool σ) Unit := do
  let l := (← get).free
  onPages (PageStore.modify l.tailPage (FreeNode.setSlot (l.index l.tailSeq) item))
  updateFree fun l => { l with tailSeq := nextSeq l.tailSeq }
  if l.index (nextSeq l.tailSeq) = 0 then
    addNode

/-- Takes the oldest item below the watermark; a head node that is used up by this enters at
the tail. -/
def popHead : Action StoreError (PagePool σ) (Option PageId) := do
  let (item, reclaimed) ← pop
  match reclaimed with
  | none => return item
  | some node =>
    pushTail node
    return item

/-- Adds several items in order, up to the first failure. -/
def pushAll : List PageId → Action StoreError (PagePool σ) Unit
  | [] => return ()
  | item :: rest => do
    pushTail item
    pushAll rest

/-- A page of zeros to write to: the oldest free one, or a new one at the end. -/
def allocate : Action StoreError (PagePool σ) PageId := do
  match ← popHead with
  | some id =>
    onPages (PageStore.modify id fun page => Bytes.zeros page.length)
    return id
  | none => appendZeros

/-- Several pages of zeros to write to. -/
def allocateMany : Nat → Action StoreError (PagePool σ) (List PageId)
  | 0 => return []
  | n + 1 => do
    let id ← allocate
    return id :: (← allocateMany n)

end PagePool

end PagedTables
