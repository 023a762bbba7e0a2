/-
# Page stores

A page store holds equally long pages, numbered from zero. The free list and the snapshot chain
work on any page store; a store in memory is the plainest one.

* `PageStore` : what a page store can do;
* `PageArray` : pages in memory.
-/
import PagedTables.Action
import PagedTables.StoreError

namespace PagedTables

/-- Pages of one size that can be read, changed in place, and added at the end. -/
class PageStore (σ : Type) where
  /-- Bytes per page. -/
  pageSize : σ → Nat
  /-- The number of pages. -/
  pageCount : σ → Nat
  /-- The bytes of a page. -/
  read : PageId → Action StoreError σ Bytes
  /-- Changes a page in place. -/
  modify : PageId → (Bytes → Bytes) → Action StoreError σ Unit
  /-- Adds a page at the end and answers its number. -/
  append : Bytes → Action StoreError σ PageId

/-! ## Pages in memory -/

/-- Pages in memory. -/
structure PageArray where
  /-- Bytes per page. -/
  pageSize : Nat
  /-- The pages in order. -/
  pages : List Bytes
  deriving DecidableEq, Repr

namespace PageArray

/-- A single page of zeros. -/
def initial (pageSize : Nat) : PageArray :=
  ⟨pageSize, [Bytes.zeros pageSize]⟩

/-- The bytes of a page. -/
def read (id : PageId) : Action StoreError PageArray Bytes := do
  match (← get).pages[id]? with
  | some page => return page
  | none => throw (.pageNotFound id)

/-- Changes a page in place. -/
def modify (id : PageId) (change : Bytes → Bytes) : Action StoreError PageArray Unit := do
  let a ← get
  match a.pages[id]? with
  | some page => set { a with pages := a.pages.set id (change page) }
  | none => throw (.pageNotFound id)

/-- Adds a page at the end. -/
def append (page : Bytes) : Action StoreError PageArray PageId := do
  let a ← get
  if page.length = a.pageSize then
    set { a with pages := a.pages ++ [page] }
    return a.pages.length
  else
    throw (.wrongPageSize a.pageSize page.length)

instance : PageStore PageArray where
  pageSize := PageArray.pageSize
  pageCount a := a.pages.length
  read := read
  modify := modify
  append := append

end PageArray

end PagedTables
