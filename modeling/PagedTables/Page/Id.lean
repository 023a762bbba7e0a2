/-
# Page numbers

The pages of a file are numbered from zero. Number zero is the meta page; since no link ever
leads there, it also stands for "no page" in links.
-/
import PagedTables.Bytes

namespace PagedTables

/-- The number of a page. -/
abbrev PageId := Nat

namespace PageId

/-- The link to no page. -/
def null : PageId := 0

/-- The page that describes the file. -/
def metaPage : PageId := 0

/-- The number of bytes that a page number takes in a file. -/
def width : Nat := 8

/-- The position in the file of a page, as a 64-bit word. -/
def offset (id : PageId) (pageSize : Nat) : UInt64 :=
  UInt64.ofNat (id * pageSize)

/-- The bytes of a link. -/
def toBytes (id : PageId) : Bytes :=
  Bytes.ofNatLE width id

/-- The link that bytes spell. -/
def ofBytes (b : Bytes) : PageId :=
  Bytes.toNatLE b

/-- The number as text. -/
def text (id : PageId) : String :=
  toString (id : Nat)

/-- The number in diagnostics, where the link to no page has a name. -/
def debugText (id : PageId) : String :=
  "PageId(" ++ (if id = null then "NULL" else id.text) ++ ")"

end PageId

end PagedTables
