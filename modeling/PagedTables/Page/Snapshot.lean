/-
# Snapshots

A snapshot is the committed contents of a store: its entries in key order, written one after
the other into a stream, and the stream cut into the payloads of a chain of pages.

    stream   key length (4), key, value length (4), value, and so on
    page     next page (8), payload length (4), payload

* `Snapshot.encodeEntries`, `Snapshot.decodeEntries` : entries and their stream;
* `Snapshot.readChain` : the stream and the pages of a chain.
-/
import PagedTables.Page.Store

namespace PagedTables

/-- A key with its value. -/
abbrev Entry := Bytes × Bytes

namespace Snapshot

/-! ## Streams -/

/-- A byte string after its length. -/
def encodeField (b : Bytes) : Bytes :=
  Bytes.ofNatLE 4 b.length ++ b

/-- The key of an entry, then its value. -/
def encodeEntry (e : Entry) : Bytes :=
  encodeField e.1 ++ encodeField e.2

/-- The stream of entries. -/
def encodeEntries (entries : List Entry) : Bytes :=
  entries.flatMap encodeEntry

/-- Reads a byte string after its length, and answers the rest of the stream too. -/
def readField (field : EntryField) (s : Bytes) : Except StoreError (Bytes × Bytes) :=
  if s.length < 4 then .error (.damaged (.truncatedLength field))
  else
    let n := Bytes.toNatLE (s.take 4)
    let rest := s.drop 4
    if rest.length < n then .error (.damaged (.truncatedField field))
    else .ok (rest.take n, rest.drop n)

/-- Reads at most `fuel` entries with keys above `last`, until the stream ends. -/
def readEntries : Nat → Option Bytes → Bytes → Except StoreError (List Entry)
  | 0, _, _ => .ok []
  | _ + 1, _, [] => .ok []
  | fuel + 1, last, s@(_ :: _) => do
    let (key, s) ← readField .key s
    let (value, s) ← readField .value s
    if last.any fun l => (compare key l).isLE then
      throw (.damaged .keysOutOfOrder)
    return (key, value) :: (← readEntries fuel (some key) s)

/-- The entries of a stream, of which there must be `expected`, with ascending keys. -/
def decodeEntries (s : Bytes) (expected : Nat) : Except StoreError (List Entry) := do
  let entries ← readEntries s.length none s
  if entries.length = expected then
    return entries
  else
    throw (.damaged (.entryCount entries.length expected))

/-! ## Pages -/

/-- The length of a page's part before the payload. -/
def headerSize : Nat := 12

/-- The most payload that fits into a page. -/
def payloadCapacity (pageSize : Nat) : Nat :=
  pageSize - headerSize

/-- Writes link and payload; the bytes behind the payload stay as they are. -/
def writePage (next : PageId) (payload : Bytes) (page : Bytes) : Bytes :=
  page.overwrite 0 (next.toBytes ++ Bytes.ofNatLE 4 payload.length ++ payload)

/-- The next page of the chain. -/
def link (page : Bytes) : PageId :=
  PageId.ofBytes (page.slice 0 8)

/-- The payload length that a page claims. -/
def payloadSize (page : Bytes) : Nat :=
  Bytes.toNatLE (page.slice 8 4)

/-- The payload of a page. -/
def payload (page : Bytes) : Bytes :=
  page.slice headerSize (payloadSize page)

/-! ## Chains -/

variable {σ : Type} [PageStore σ]

/-- Follows a chain over at most `fuel` pages. -/
def followChain (capacity : Nat) :
    Nat → PageId → Action StoreError σ (Bytes × List PageId)
  | fuel, id =>
    if id = PageId.null then
      return ([], [])
    else
      match fuel with
      | 0 => throw (.damaged .chainCycle)
      | fuel + 1 => do
        let page ← PageStore.read id
        if capacity < payloadSize page then
          throw (.damaged (.oversizedPayload id (payloadSize page)))
        else
          let (stream, ids) ← followChain capacity fuel (link page)
          return (payload page ++ stream, id :: ids)

/-- The stream of the chain that starts at `head`, and its pages in order. A chain cannot be
longer than the store has pages. -/
def readChain (head : PageId) : Action StoreError σ (Bytes × List PageId) := do
  let pages ← get
  followChain (payloadCapacity (PageStore.pageSize pages)) (PageStore.pageCount pages) head

/-- Writes the payloads into the pages, each linked to the next one. -/
def writeChain : List PageId → List Bytes → Action StoreError σ Unit
  | id :: ids, payload :: payloads => do
    PageStore.modify id (writePage (ids.headD PageId.null) payload)
    writeChain ids payloads
  | _, _ => return ()

end Snapshot

end PagedTables
