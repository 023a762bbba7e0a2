/-
# Volumes

A directory of files, in which several programs may have the same file open. A name leads to a
file, and a file that loses its name stays as long as it is open somewhere.

* `Volume.status` : what is found under a path;
* `Handle.run` : an action on an open file, which sees what others have written since.
-/
import PagedTables.Table.Opening

namespace PagedTables

/-- A directory of files. -/
structure Volume where
  /-- The number of the file under each name. -/
  names : OrderedMap String Nat := ∅
  /-- The bytes of every file, by number. -/
  files : List Bytes := []

namespace Volume

/-! ## Paths -/

/-- The most bytes that a path may have. -/
def maxPathSize : Nat := 4095

/-- The most bytes that a name may have. -/
def maxNameSize : Nat := 255

/-- The parts of a path between its slashes. -/
def parts : List Char → List (List Char)
  | [] => [[]]
  | c :: rest =>
    if c = '/' then [] :: parts rest
    else
      match parts rest with
      | [] => [[c]]
      | part :: others => (c :: part) :: others

/-- The parts of a path that do not stay where they are. -/
def steps (path : String) : List String :=
  ((parts path.toList).map String.ofList).filter fun part => part != "" && part != "."

/-- The name of the file that a path leads to. -/
def nameOf (path : String) : String :=
  "/".intercalate (steps path)

/-- Tells whether a path can only lead to a directory. -/
def asksForDirectory (path : String) : Bool :=
  let last := (parts path.toList).getLast?
  last == some [] || last == some ['.']

/-- Tells whether a path leads out of the directory. -/
def leadsOut (path : String) : Bool :=
  path.toList.head? == some '/' || (steps path).head? == some ".."

/-- The directories that are found at the top of a system. -/
def systemDirectories : List String :=
  ["bin", "dev", "etc", "home", "lib", "root", "tmp", "usr", "var"]

/-- The number of the file of a name. -/
def number? (v : Volume) (name : String) : Option Nat :=
  v.names.lookup name

/-- The bytes of a file. -/
def contents (v : Volume) (file : Nat) : Bytes :=
  v.files[file]?.getD []

/-- The bytes of the file of a name. -/
def read? (v : Volume) (name : String) : Option Bytes :=
  (v.number? name).map v.contents

/-- What is found in the directory under a name and further steps from there. There are no
directories in the directory. -/
def statusInside (v : Volume) (name : String) (isLast : Bool) : FileStatus :=
  match v.read? name, isLast with
  | some bytes, true => .present bytes
  | some _, false => .unreadable
  | none, true => .absent
  | none, false => .uncreatable

/-- What is found under a path. Outside of the directory there are no files. -/
def status (v : Volume) (path : String) : FileStatus :=
  if path.isEmpty then .uncreatable
  else if path.toList.contains '\x00' || maxPathSize < path.utf8ByteSize then .unreadable
  else
    match (steps path).dropWhile (· == "..") with
    | [] => .unreadable
    | name :: rest =>
      if maxNameSize < name.utf8ByteSize then .unreadable
      else if !leadsOut path then
        v.statusInside name (rest.isEmpty && !asksForDirectory path)
      else if rest.isEmpty && systemDirectories.contains name then .unreadable
      else .uncreatable

/-- The name that leads to the file under a path, or would lead to it once it is created. -/
def place? (v : Volume) (path : String) : Option String :=
  match v.status path with
  | .present _ | .absent => some (nameOf path)
  | _ => none

/-! ## Changing files -/

/-- Replaces the bytes of a file. -/
def write (v : Volume) (file : Nat) (bytes : Bytes) : Volume :=
  { v with files := v.files.set file bytes }

/-- The number of the file of a name, which is created if there is none. -/
def obtain (v : Volume) (name : String) : Nat × Volume :=
  match v.number? name with
  | some file => (file, v)
  | none =>
    (v.files.length, ⟨v.names.insert name v.files.length, v.files ++ [[]]⟩)

/-- Replaces the bytes of the file under a path, which is created if there is none. -/
def put? (v : Volume) (path : String) (bytes : Bytes) : Option Volume :=
  (v.place? path).map fun name =>
    let (file, v) := v.obtain name
    v.write file bytes

/-- Changes the bytes of the file of a name, if there is one. -/
def change? (v : Volume) (name : String) (f : Bytes → Bytes) : Option Volume :=
  (v.number? name).map fun file => v.write file (f (v.contents file))

/-- Takes the name from a file. -/
def remove (v : Volume) (name : String) : Volume :=
  { v with names := v.names.erase name }

end Volume

/-! ## Open files -/

/-- What keeps a file open. -/
class OnDisk (α : Type) where
  /-- The file. -/
  disk : α → Disk
  /-- The same with another file. -/
  withDisk : α → Disk → α

instance : OnDisk PageFile where
  disk := PageFile.disk
  withDisk f d := { f with disk := d }

instance : OnDisk DurableStore where
  disk s := s.pages.disk
  withDisk s d := { s with pages := { s.pages with disk := d } }

instance {κ : Type} [OnDisk κ] : OnDisk (Database κ) where
  disk db := OnDisk.disk db.store
  withDisk db d := { db with store := OnDisk.withDisk db.store d }

/-- An open file of a volume. -/
structure Handle (α : Type) where
  /-- The number of the file. -/
  file : Nat
  /-- What keeps the file open. -/
  value : α

namespace Handle

variable {ε α β : Type} [OnDisk α]

/-- What was opened, with the bytes that the file holds now. -/
def refresh (h : Handle α) (v : Volume) : α :=
  OnDisk.withDisk h.value { OnDisk.disk h.value with bytes := v.contents h.file }

/-- Runs an action on an open file. -/
def run (h : Handle α) (v : Volume) (act : Action ε α β) : Except ε β × Handle α × Volume :=
  let (outcome, value) := Action.outcome act (h.refresh v)
  (outcome, ⟨h.file, value⟩, v.write h.file (OnDisk.disk value).bytes)

end Handle

/-- The file under a path, opened as `opened` says, which may have created or changed it. -/
def Volume.attach {ε α : Type} [OnDisk α] (v : Volume) (path : String) (opened : Except ε α) :
    Except ε (Handle α) × Volume :=
  match opened with
  | .error e => (.error e, v)
  | .ok value =>
    let (file, v) := v.obtain (Volume.nameOf path)
    (.ok ⟨file, value⟩, v.write file (OnDisk.disk value).bytes)

end PagedTables
