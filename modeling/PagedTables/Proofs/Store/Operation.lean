/-
# Operations on a store

What a program does with a store: it changes and reads entries, commits them, and closes or
drops the store and opens its file again. The same operations make sense for entries in memory
beside a copy of those that were saved last.

* `StoreOperation`, `StoreReply` : the operations and what they reply;
* `DurableStore.operate`, `SavedStore.operate` : an operation on a file, and in memory;
* `replies` : the replies to operations one after another.
-/
import Mathlib
import PagedTables.Proofs.Store.Calls
import PagedTables.Store.Cursor

namespace PagedTables

/-! ## Operations -/

/-- What is done with a store. -/
inductive StoreOperation where
  /-- Calls the store. -/
  | call (call : StoreCall)
  /-- Reads the value under a key. -/
  | get (key : Bytes)
  /-- Seeks an entry, and moves on from there. -/
  | seek (comparison : Comparison) (reference : Bytes) (moves : List Cursor.Move)
  /-- Closes the store, and opens its file again. -/
  | close (path : String) (options : StoreOptions)
  /-- Drops the store, and opens its file again. -/
  | drop (path : String) (options : StoreOptions)
  deriving DecidableEq, Repr

/-- What an operation replies. -/
inductive StoreReply where
  /-- The answer of a call. -/
  | answer (answer : StoreAnswer)
  /-- The value under a key. -/
  | value (value : Option Bytes)
  /-- The entries that a cursor stood on. -/
  | trail (entries : List (Option Entry))
  /-- The file is open again. -/
  | opened
  deriving DecidableEq, Repr

/-- The entries that a cursor visits from the one it seeks. -/
def MemoryStore.trail (m : MemoryStore) (comparison : Comparison) (reference : Bytes)
    (moves : List Cursor.Move) : List (Option Entry) :=
  (Cursor.seek m.entries comparison reference).trail moves

/-- Lengths can be written, and options are valid. -/
def StoreOperation.Valid : StoreOperation → Prop
  | call (.update key value _) => key.length < 2 ^ 32 ∧ value.length < 2 ^ 32
  | call (.delete _) | call .commit | call .flush | get _ | seek .. => True
  | close _ options | drop _ options => options.check = .ok ()

/-- The replies to operations one after another, and the state that they lead to. -/
def replies {σ : Type} (operate : StoreOperation → Action StoreError σ StoreReply) :
    List StoreOperation → σ → List (Except StoreError StoreReply) × σ
  | [], s => ([], s)
  | op :: ops, s =>
    let (reply, t) := (operate op).outcome s
    let (rest, u) := replies operate ops t
    (reply :: rest, u)

/-! ## Operations on a file -/

namespace DurableStore

/-- Opens the file of the store again. -/
def reopen (path : String) (options : StoreOptions) : Action StoreError DurableStore Unit := do
  let s ← get
  match «open» path (.present s.pages.disk.bytes) options with
  | .ok t => set t
  | .error e => throw e

/-- Performs an operation on the store. -/
def operate : StoreOperation → Action StoreError DurableStore StoreReply
  | .call call => return .answer (← call.run)
  | .get key => return .value ((← get).index.get? key)
  | .seek comparison reference moves =>
    return .trail ((← get).index.trail comparison reference moves)
  | .close path options => do
    let _ ← StoreCall.flush.run
    reopen path options
    return .opened
  | .drop path options => do
    reopen path options
    return .opened

end DurableStore

/-! ## Operations in memory -/

/-- A store in memory, with a copy of its entries at the last commit. -/
structure SavedStore where
  /-- The entries. -/
  contents : MemoryStore
  /-- The entries at the last commit. -/
  saved : Entries
  /-- Whether every change is committed at once. -/
  autoCommit : Bool
  /-- The number of bytes that all commits have taken. -/
  written : Nat

namespace SavedStore

/-- An empty store. -/
def new (options : StoreOptions) : SavedStore :=
  ⟨MemoryStore.ofOptions options, ∅, options.autoCommit, 0⟩

/-- Tells whether a call with a given answer commits. -/
def commits (m : SavedStore) (answer : StoreAnswer) : StoreCall → Bool
  | .update .. | .delete _ => m.autoCommit && answer.changed
  | .commit | .flush => true

/-- The store with other contents, which may be saved. -/
def change (m : SavedStore) (contents : MemoryStore) (save : Bool) : SavedStore :=
  { m with
    contents := contents
    saved := if save then contents.entries else m.saved
    written := m.written +
      if save then (Snapshot.encodeEntries contents.entries.toList).length else 0 }

/-- Makes a call, as on a store in memory. -/
def call (call : StoreCall) : Action StoreError SavedStore StoreAnswer := fun m =>
  match call.onMemory m.contents with
  | .ok answer contents => .ok answer (m.change contents (m.commits answer call))
  | .error e _ => .error e m

/-- A call that succeeds in memory replaces the entries, and the copy if it commits. -/
theorem call_of_ok {m : SavedStore} {c : StoreCall} {answer : StoreAnswer}
    {contents : MemoryStore} (h : c.onMemory m.contents = .ok answer contents) :
    call c m = .ok answer (m.change contents (m.commits answer c)) := by
  rw [call, h]

/-- A call that is refused in memory changes nothing. -/
theorem call_of_error {m : SavedStore} {c : StoreCall} {e : StoreError}
    {contents : MemoryStore} (h : c.onMemory m.contents = .error e contents) :
    call c m = .error e m := by
  rw [call, h]

/-- Goes back to the saved entries. -/
def reopen (options : StoreOptions) : Action StoreError SavedStore Unit :=
  modify fun m => { m with
    contents := ⟨m.saved, options.maxKeySize, options.maxValueSize⟩
    autoCommit := options.autoCommit }

/-- Performs an operation on the store. -/
def operate : StoreOperation → Action StoreError SavedStore StoreReply
  | .call c => return .answer (← call c)
  | .get key => return .value ((← get).contents.get? key)
  | .seek comparison reference moves =>
    return .trail ((← get).contents.trail comparison reference moves)
  | .close _ options => do
    let _ ← call .flush
    reopen options
    return .opened
  | .drop _ options => do
    reopen options
    return .opened

end SavedStore

end PagedTables
