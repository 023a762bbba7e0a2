/-
# The meta page

Page zero of a file. It names the snapshot that is current and the free list that belongs to
it; overwriting it is what makes a commit take effect. All numbers are stored with the least
significant byte first.

    0   signature             44  head node of the free list
    16  page size             52  sequence of the head
    20  number of pages       60  tail node of the free list
    28  first snapshot page   68  sequence of the tail
    36  number of entries     76  CRC-32 of bytes 0 to 75

* `MetaPage.encode` : writes a meta page over the start of a page;
* `MetaPage.decode` : reads a meta page and checks it;
* `recordedPageSize` : the page size of a file, needed before its pages can be read.
-/
import PagedTables.Checksum
import PagedTables.Page.Disk

namespace PagedTables

/-- The contents of the meta page. -/
structure MetaPage where
  /-- Bytes per page of the file. -/
  pageSize : UInt32
  /-- The number of pages that belong to the committed state. -/
  pageCount : UInt64
  /-- The first page of the snapshot, or null if there are no entries. -/
  dataHead : UInt64
  /-- The number of entries in the snapshot. -/
  entryCount : UInt64
  /-- The node with the oldest item of the free list. -/
  headPage : UInt64
  /-- The sequence number of the oldest item. -/
  headSeq : UInt64
  /-- The node that takes new items. -/
  tailPage : UInt64
  /-- The sequence number of the next new item. -/
  tailSeq : UInt64
  deriving DecidableEq, Repr, Inhabited

namespace MetaPage

/-! ## Layout -/

/-- The bytes that every file starts with. -/
def signature : Bytes :=
  [0x53, 0x74, 0x72, 0x61, 0x74, 0x61, 0x44, 0x42, 0x2d, 0x76, 0x31, 0, 0, 0, 0, 0]

/-- The length of the meta page with its check value. -/
def size : Nat := 80

/-- The length of the part that the check value covers. -/
def bodySize : Nat := 76

/-- The part that the check value covers. -/
def body (m : MetaPage) : Bytes :=
  signature ++ Bytes.ofNatLE 4 m.pageSize.toNat ++ Bytes.ofNatLE 8 m.pageCount.toNat ++
    Bytes.ofNatLE 8 m.dataHead.toNat ++ Bytes.ofNatLE 8 m.entryCount.toNat ++
    Bytes.ofNatLE 8 m.headPage.toNat ++ Bytes.ofNatLE 8 m.headSeq.toNat ++
    Bytes.ofNatLE 8 m.tailPage.toNat ++ Bytes.ofNatLE 8 m.tailSeq.toNat

/-- Writes a meta page over the start of a page. -/
def encode (m : MetaPage) (page : Bytes) : Bytes :=
  page.overwrite 0 (m.body ++ Bytes.ofNatLE 4 (checksum m.body).toNat)

@[simp] theorem length_body (m : MetaPage) : m.body.length = bodySize := by
  simp [body, signature, bodySize]

theorem length_encode (m : MetaPage) {page : Bytes} (h : size ≤ page.length) :
    (m.encode page).length = page.length := by
  apply Bytes.length_overwrite
  simp only [List.length_append, length_body, Bytes.length_ofNatLE, bodySize]
  simp only [size] at h
  omega

/-! ## Reading -/

/-- The 64-bit number at a position. -/
def wordAt (page : Bytes) (off : Nat) : UInt64 :=
  UInt64.ofNat (Bytes.toNatLE (page.slice off 8))

/-- The 32-bit number at a position. -/
def halfAt (page : Bytes) (off : Nat) : UInt32 :=
  UInt32.ofNat (Bytes.toNatLE (page.slice off 4))

/-- The fields at their positions, whatever their values. -/
def fields (page : Bytes) : MetaPage where
  pageSize := halfAt page 16
  pageCount := wordAt page 20
  dataHead := wordAt page 28
  entryCount := wordAt page 36
  headPage := wordAt page 44
  headSeq := wordAt page 52
  tailPage := wordAt page 60
  tailSeq := wordAt page 68

/-- Checks that a node of the free list is a page of the file other than the meta page. -/
def checkNode (m : MetaPage) (node : UInt64) : Except StoreError Unit :=
  if node = 0 ∨ m.pageCount ≤ node then .error (.damaged (.nodeOutOfBounds node.toNat))
  else .ok ()

/-- Checks the fields against each other. -/
def check (m : MetaPage) : Except StoreError Unit := do
  if m.tailSeq < m.headSeq then
    throw (.damaged (.headPastTail m.headSeq.toNat m.tailSeq.toNat))
  checkNode m m.headPage
  checkNode m m.tailPage
  if m.pageCount ≤ m.dataHead then
    throw (.damaged (.dataHeadOutOfBounds m.dataHead.toNat))

/-- Reads the meta page at the start of a page, after its signature and its check value. -/
def decode (page : Bytes) : Except StoreError MetaPage :=
  if page.length < size then .error (.damaged .metaTruncated)
  else if page.take signature.length ≠ signature then .error (.damaged .badSignature)
  else
    let stored := halfAt page bodySize
    let computed := checksum (page.take bodySize)
    if stored ≠ computed then .error (.checksumMismatch stored computed)
    else (fields page).check.map fun _ => fields page

end MetaPage

/-- The bytes with a check value that fits the part that it covers. -/
def MetaPage.reseal (page : Bytes) : Bytes :=
  if page.length < MetaPage.size then page
  else page.overwrite MetaPage.bodySize
    (Bytes.ofNatLE 4 (checksum (page.take MetaPage.bodySize)).toNat)

/-! ## Page size of a file -/

/-- The page size that a file records; it must be one that a file may have. -/
def recordedPageSize (file : Bytes) : Except StoreError Nat :=
  if file.length < MetaPage.signature.length + 4 then .error (.damaged .fileTooShort)
  else if file.take MetaPage.signature.length ≠ MetaPage.signature then
    .error (.damaged .badSignature)
  else
    let n := Bytes.toNatLE (file.slice MetaPage.signature.length 4)
    if validPageSize n then .ok n else .error (.damaged (.badPageSize n))

/-- The page size that the file under a path records. -/
def FileStatus.pageSize : FileStatus → Except StoreError Nat
  | present bytes => recordedPageSize bytes
  | absent | uncreatable | unreadable => .error (.io .cannotOpen)

end PagedTables
