/-
# Stores in memory

An ordered store of byte strings with limits on their lengths, and the interface that it shares
with the store in a file.

* `MemoryStore.put` : writes an entry under a condition;
* `Store` : what the tables need of a store.
-/
import PagedTables.OrderedMap
import PagedTables.Comparison
import PagedTables.Page.Snapshot

namespace PagedTables

/-! ## Conditional writes -/

/-- The condition under which a write takes place. -/
inductive WriteMode where
  /-- Always. -/
  | upsert
  /-- Only if the key is there. -/
  | update
  /-- Only if the key is not there. -/
  | insert
  deriving DecidableEq, Repr, Inhabited

/-- What a write has done. -/
structure WriteOutcome where
  /-- The key is new. -/
  added : Bool
  /-- The store has changed. -/
  updated : Bool
  deriving DecidableEq, Repr, Inhabited

/-- Nothing was written. -/
def WriteOutcome.unchanged : WriteOutcome := ⟨false, false⟩

/-! ## The store -/

/-- Entries in key order. -/
abbrev Entries := OrderedMap Bytes Bytes

/-- An ordered store in memory. -/
structure MemoryStore where
  /-- The entries. -/
  entries : Entries
  /-- The most bytes that a key may have. -/
  maxKeySize : Nat
  /-- The most bytes that a value may have. -/
  maxValueSize : Nat

namespace MemoryStore

/-- An empty store with the limits of some options. -/
def ofOptions (o : StoreOptions) : MemoryStore :=
  ⟨∅, o.maxKeySize, o.maxValueSize⟩

/-- An empty store with the usual limits. -/
def empty : MemoryStore :=
  ofOptions {}

/-- The number of entries. -/
def size (m : MemoryStore) : Nat :=
  m.entries.size

/-- The value under a key. -/
def get? (m : MemoryStore) (key : Bytes) : Option Bytes :=
  m.entries.lookup key

/-- Checks an entry against the limits, the key first. -/
def checkEntry (m : MemoryStore) (key value : Bytes) : Except StoreError Unit :=
  if key.isEmpty then .error .emptyKey
  else if m.maxKeySize < key.length then .error (.keyTooLarge key.length m.maxKeySize)
  else if m.maxValueSize < value.length then
    .error (.valueTooLarge value.length m.maxValueSize)
  else .ok ()

/-- Stores an entry without checks. -/
def load (m : MemoryStore) (key value : Bytes) : MemoryStore :=
  { m with entries := m.entries.insert key value }

/-- Removes a key. -/
def erase (m : MemoryStore) (key : Bytes) : MemoryStore :=
  { m with entries := m.entries.erase key }

/-- Gives a key the value it had before, or removes it if it had none. -/
def restore (m : MemoryStore) (key : Bytes) : Option Bytes → MemoryStore
  | some value => m.load key value
  | none => m.erase key

/-- Writes an entry if the mode allows it. Storing the value that is there is no change. -/
def put (m : MemoryStore) (key value : Bytes) (mode : WriteMode) :
    Except StoreError (WriteOutcome × MemoryStore) := do
  m.checkEntry key value
  match m.get? key with
  | some current =>
    if mode = .insert ∨ current = value then return (.unchanged, m)
    else return (⟨false, true⟩, m.load key value)
  | none =>
    if mode = .update then return (.unchanged, m)
    else return (⟨true, true⟩, m.load key value)

end MemoryStore

/-! ## The interface of a store -/

/-- An ordered store: its entries can be read, and changes may fail. -/
class Store (κ : Type) where
  /-- The current contents. -/
  contents : κ → MemoryStore
  /-- Writes an entry if the mode allows it. -/
  update : Bytes → Bytes → WriteMode → Action StoreError κ WriteOutcome
  /-- Removes a key, and answers whether it was there. -/
  delete : Bytes → Action StoreError κ Bool
  /-- Makes all changes durable. -/
  flush : Action StoreError κ Unit

namespace MemoryStore

/-- Writes an entry if the mode allows it. -/
def update (key value : Bytes) (mode : WriteMode) : Action StoreError MemoryStore WriteOutcome := do
  let (outcome, m) ← Action.ofExcept ((← get).put key value mode)
  set m
  return outcome

/-- Removes a key, and answers whether it was there. -/
def delete (key : Bytes) : Action StoreError MemoryStore Bool := do
  let m ← get
  match m.get? key with
  | some _ =>
    set (m.erase key)
    return true
  | none => return false

instance : Store MemoryStore where
  contents := id
  update := update
  delete := delete
  flush := pure ()

end MemoryStore

end PagedTables
