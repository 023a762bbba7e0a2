/-
# Disks

The file under a page store, as the bytes it holds now. Writing and syncing may be told to fail,
so that what a program does after a failure is part of its meaning too; a disk without planned
faults never fails to write.

* `FileStatus` : what is found under the path of a file;
* `Disk.read` : bytes that the file holds in full, or an error;
* `Disk.write` : overwrites bytes, growing the file where needed.
-/
import PagedTables.Action
import PagedTables.StoreError

namespace PagedTables

/-! ## Paths -/

/-- What is found under a path. -/
inductive FileStatus where
  /-- A file with its bytes. -/
  | present (bytes : Bytes)
  /-- No file; one can be created. -/
  | absent
  /-- No file, and none can be created. -/
  | uncreatable
  /-- Something that cannot be read as a file. -/
  | unreadable
  deriving DecidableEq, Repr

/-- The bytes under a path; there are none where there is no file. -/
def FileStatus.bytes : FileStatus → Bytes
  | present bytes => bytes
  | _ => []

/-! ## Faults -/

/-- How a write or a sync turns out. -/
inductive Fault where
  /-- It succeeds. -/
  | none
  /-- It reports an error and has had no effect. -/
  | lost
  /-- It reports an error although it has had its effect. -/
  | landed
  deriving DecidableEq, Repr

/-- A file and the faults that its next writes and syncs meet. -/
structure Disk where
  /-- The bytes that the file holds. -/
  bytes : Bytes
  /-- How the next writes and syncs turn out; those after the last one succeed. -/
  faults : List Fault := []
  deriving DecidableEq, Repr

namespace Disk

/-! ## Operations -/

/-- Reads `len` bytes from position `off`; the file must hold all of them. -/
def read (off len : Nat) : Action StoreError Disk Bytes := do
  let d ← get
  if off + len ≤ d.bytes.length then
    return d.bytes.slice off len
  else
    throw (.io .shortRead)

/-- Takes the next planned fault. -/
def nextFault : Action StoreError Disk Fault := do
  let d ← get
  match d.faults with
  | [] => return .none
  | f :: rest =>
    set { d with faults := rest }
    return f

/-- Writes bytes from position `off`. -/
def write (off : Nat) (data : Bytes) : Action StoreError Disk Unit := do
  let f ← nextFault
  if f ≠ .lost then
    modify fun d => { d with bytes := d.bytes.overwrite off data }
  if f ≠ .none then
    throw (.io .writeFailed)

/-- Waits until all written bytes are durable. -/
def sync : Action StoreError Disk Unit := do
  let f ← nextFault
  if f ≠ .none then
    throw (.io .syncFailed)

end Disk

end PagedTables
