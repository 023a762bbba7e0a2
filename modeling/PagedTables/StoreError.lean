/-
# Store errors

What can go wrong below the tables: the causes, their wording, and which of them mean that the
stored bytes are damaged.

* `StoreError.isDamage` : the two kinds of error that no healthy file produces;
* `StoreError.message` : the text of an error.
-/
import PagedTables.Options
import PagedTables.Page.Id
import PagedTables.Text.Hex

namespace PagedTables

/-! ## Damage -/

/-- A field of an entry in a snapshot. -/
inductive EntryField where
  /-- The key. -/
  | key
  /-- The value. -/
  | value
  deriving DecidableEq, Repr

/-- The name of a field. -/
def EntryField.name : EntryField → String
  | key => "key"
  | value => "value"

/-- What is wrong with the bytes of a file. -/
inductive Damage where
  /-- The file ends inside the first fields of the meta page. -/
  | fileTooShort
  /-- The file does not start with the signature. -/
  | badSignature
  /-- The recorded page size is none that a file may have. -/
  | badPageSize (recorded : Nat)
  /-- The file ends inside the meta page. -/
  | metaTruncated
  /-- The meta page records another page size than was read just before. -/
  | pageSizeChanged
  /-- The meta page covers more pages than the file has. -/
  | missingPages (covered present : Nat)
  /-- The free list starts after its end. -/
  | headPastTail (head tail : Nat)
  /-- A node of the free list is no page of the file. -/
  | nodeOutOfBounds (id : PageId)
  /-- The snapshot starts outside the file. -/
  | dataHeadOutOfBounds (id : PageId)
  /-- The chain of snapshot pages does not end. -/
  | chainCycle
  /-- A snapshot page claims more payload than fits. -/
  | oversizedPayload (id : PageId) (claimed : Nat)
  /-- The snapshot ends inside the length of a field. -/
  | truncatedLength (field : EntryField)
  /-- The snapshot ends inside a field. -/
  | truncatedField (field : EntryField)
  /-- The keys of the snapshot do not ascend. -/
  | keysOutOfOrder
  /-- The snapshot holds another number of entries than the meta page records. -/
  | entryCount (held recorded : Nat)
  /-- A slot of the free list holds no page. -/
  | emptySlot (node : PageId) (sequence : Nat)
  /-- A used-up node of the free list leads nowhere. -/
  | noSuccessor (node : PageId)
  deriving DecidableEq, Repr

/-- The wording of a damage. -/
def Damage.message : Damage → String
  | fileTooShort => "file is too short"
  | badSignature => "bad signature"
  | badPageSize n => "invalid stored page size " ++ toString n
  | metaTruncated => "meta page is truncated"
  | pageSizeChanged => "page size changed while reading"
  | missingPages covered present =>
    "meta page covers " ++ toString covered ++ " pages, file has " ++ toString present
  | headPastTail head tail =>
    "free list head sequence " ++ toString head ++ " is past tail sequence " ++ toString tail
  | nodeOutOfBounds id => "free list node " ++ id.text ++ " is out of bounds"
  | dataHeadOutOfBounds id => "data head " ++ id.text ++ " is out of bounds"
  | chainCycle => "snapshot chain has a cycle"
  | oversizedPayload id claimed =>
    "snapshot page " ++ id.text ++ " claims " ++ toString claimed ++ " payload bytes"
  | truncatedLength field => "truncated " ++ field.name ++ " length"
  | truncatedField field => "truncated " ++ field.name
  | keysOutOfOrder => "snapshot keys out of order"
  | entryCount held recorded =>
    "snapshot holds " ++ toString held ++ " entries, meta page says " ++ toString recorded
  | emptySlot node sequence =>
    "free list node " ++ node.text ++ " holds a null page at sequence " ++ toString sequence
  | noSuccessor node => "free list node " ++ node.text ++ " has no successor"

/-! ## Errors -/

/-- What the file refused to do. -/
inductive FileFault where
  /-- The file cannot be opened. -/
  | cannotOpen
  /-- The file ends inside the bytes asked for. -/
  | shortRead
  /-- Bytes could not be written. -/
  | writeFailed
  /-- The written bytes could not be made durable. -/
  | syncFailed
  deriving DecidableEq, Repr

/-- The wording of a fault. -/
def FileFault.message : FileFault → String
  | cannotOpen => "the file cannot be opened"
  | shortRead => "the file ends too soon"
  | writeFailed => "the file cannot be written"
  | syncFailed => "the file cannot be synced"

/-- An error of a store. -/
inductive StoreError where
  /-- The file refused an operation. -/
  | io (fault : FileFault)
  /-- There is no page of this number. -/
  | pageNotFound (id : PageId)
  /-- A page of the wrong size was offered. -/
  | wrongPageSize (expected actual : Nat)
  /-- The stored bytes contradict each other. -/
  | damaged (damage : Damage)
  /-- The meta page does not match its check value. -/
  | checksumMismatch (stored computed : UInt32)
  /-- A key must have at least one byte. -/
  | emptyKey
  /-- The key exceeds the limit. -/
  | keyTooLarge (size limit : Nat)
  /-- The value exceeds the limit. -/
  | valueTooLarge (size limit : Nat)
  /-- The options are refused. -/
  | invalidOptions (fault : OptionsFault)
  /-- The file does not exist and is not to be created. -/
  | fileNotFound (path : String)
  deriving DecidableEq, Repr

namespace StoreError

/-- Tells whether the error means that stored bytes are damaged. -/
def isDamage : StoreError → Bool
  | damaged _ | checksumMismatch .. => true
  | _ => false

/-- The text of an error. -/
def message : StoreError → String
  | io fault => "I/O error: " ++ fault.message
  | pageNotFound id => "page not found: " ++ id.text
  | wrongPageSize expected actual =>
    "invalid page size: expected " ++ toString expected ++ ", got " ++ toString actual
  | damaged damage => "data corruption: " ++ damage.message
  | checksumMismatch stored computed =>
    "checksum mismatch: expected " ++ Hex.prefixed 4 stored.toNat ++ ", got " ++
      Hex.prefixed 4 computed.toNat
  | emptyKey => "key must not be empty"
  | keyTooLarge size limit =>
    "key too large: " ++ toString size ++ " bytes (max: " ++ toString limit ++ ")"
  | valueTooLarge size limit =>
    "value too large: " ++ toString size ++ " bytes (max: " ++ toString limit ++ ")"
  | invalidOptions fault => "invalid configuration: " ++ fault.message
  | fileNotFound path => "database file not found: " ++ path

/-- The text of the error followed by those of its causes. -/
def chain : StoreError → List String
  | io fault => [message (io fault), fault.message]
  | e => [message e]

end StoreError

end PagedTables
